import Mathlib.Algebra.GroupWithZero.Nat
import Mathlib.Data.List.Destutter
import Toolpath.Proofs.Current

/-!
How the linear moves of a program are cut into layers. Recording a move opens the very first layer
(`Stack.record_empty`), or continues the newest or starts another (`Stack.record_growing`).
-/

namespace Toolpath

namespace Move

def callsForLayer (settings : Settings) (move : Move) : Bool :=
  move.extruding || settings.travelStartsLayer

/-- Tells whether a move leaves a segment of a kind. Extrusion with the second tool makes the part,
extrusion with the first one its support, and every other move is travel. -/
def leaves (move : Move) : Kind → Bool
  | .extruded => move.extruding && move.tool = 1
  | .support => move.extruding && move.tool = 0
  | .travel => !(move.extruding && (move.tool = 1 || move.tool = 0))

theorem leaves_eq (move : Move) (kind : Kind) :
    move.leaves kind = decide (move.segment.kind = kind) := by
  unfold leaves segment Move.kind
  cases move.extruding with
  | false => cases kind <;> rfl
  | true => cases kind <;> grind

theorem filter_kind_segment (moves : List Move) (kind : Kind) :
    (moves.map segment).filter (·.kind = kind) =
      (moves.filter (·.leaves kind)).map fun move => ⟨move.start, move.stop, kind⟩ := by
  simp only [leaves_eq]
  rw [List.filter_map]
  refine List.map_congr_left fun move left => ?_
  have same : move.segment.kind = kind := by simpa using List.of_mem_filter left
  rw [← same]
  rfl

end Move

namespace Stack

def segments (stack : Stack) (kind : Kind) : List Segment := stack.layers.flatMap (·.segments kind)

def heights (stack : Stack) : List Double := stack.layers.map Layer.z

theorem record_empty (settings : Settings) (move : Move) :
    empty.record settings move =
      growing [] ((Layer.empty (if move.callsForLayer settings then move.stop.z else
        move.start.z)).add move.segment) := by
  change add (if move.callsForLayer settings && empty.needsLayerAt move.stop.z then
    empty.startLayer move.stop.z else empty) move.segment = _
  by_cases called : move.callsForLayer settings = true
  · simp [called, startLayer_eq_growing]
  · simp [called, Move.segment]

theorem record_growing (settings : Settings) (older : List Layer) (newest : Layer) (move : Move) :
    (growing older newest).record settings move =
      if move.callsForLayer settings && !move.stop.z.equals newest.z then
        growing (older ++ [newest]) ((Layer.empty move.stop.z).add move.segment)
      else growing older (newest.add move.segment) := by
  change add (if move.callsForLayer settings && (growing older newest).needsLayerAt move.stop.z then
    (growing older newest).startLayer move.stop.z else growing older newest) move.segment = _
  rw [needsLayerAt_growing]
  split <;> simp [startLayer_eq_growing]

theorem Sound.record {stack : Stack} (sound : stack.Sound) (settings : Settings) (move : Move) :
    (stack.record settings move).Sound := by
  obtain ⟨edits, recorded, -⟩ := exists_edits_record settings stack move
  rw [recorded]
  exact sound.edited edits

theorem segments_record {stack : Stack} (sound : stack.Sound) (settings : Settings) (move : Move)
    (kind : Kind) :
    (stack.record settings move).segments kind =
      stack.segments kind ++ if move.segment.kind = kind then [move.segment] else [] := by
  obtain rfl | ⟨older, newest, rfl⟩ := sound.eq_empty_or_growing
  · simp [record_empty, segments]
  · rw [record_growing]
    split <;> simp [segments]

theorem segments_foldl_record {stack : Stack} (sound : stack.Sound) (settings : Settings)
    (kind : Kind) (moves : List Move) :
    (moves.foldl (record settings) stack).segments kind =
      stack.segments kind ++ (moves.map Move.segment).filter (·.kind = kind) := by
  induction moves generalizing stack with
  | nil => simp
  | cons move rest ih =>
      rw [List.foldl_cons, ih (sound.record settings move), segments_record sound,
        List.append_assoc, List.map_cons, List.filter_cons]
      by_cases same : move.segment.kind = kind <;> simp [same]

end Stack

/-- Drops each height that equals the last one kept. A height that is not a number equals none. -/
def changes (heights : List Double) : List Double :=
  heights.destutter fun kept next => next.equals kept = false

/-- The heights that call for a layer. Those are the ends of all moves when travel starts layers too,
and else the ends of the extruding ones, with the start of a first move that only travels. -/
def calledHeights (settings : Settings) (moves : List Move) : List Double :=
  if settings.travelStartsLayer then moves.map (·.stop.z)
  else (moves.head?.filter (!·.extruding)).toList.map (·.start.z) ++
    (moves.filter (·.extruding)).map (·.stop.z)

namespace Stack

theorem heights_foldl_record (settings : Settings) (moves : List Move) :
    ∀ (older : List Layer) (newest : Layer),
      (moves.foldl (record settings) (growing older newest)).heights = older.map Layer.z ++
        ((moves.filter (·.callsForLayer settings)).map (·.stop.z)).destutter'
          (fun kept next => next.equals kept = false) newest.z := by
  induction moves with
  | nil =>
      intro older newest
      simp [heights]
  | cons move rest ih =>
      intro older newest
      rw [List.foldl_cons, record_growing, List.filter_cons]
      by_cases called : move.callsForLayer settings = true
      · cases level : move.stop.z.equals newest.z <;> simp [ih, called, level]
      · simp [ih, called]

theorem heights_foldl_record_empty (settings : Settings) (moves : List Move) :
    (moves.foldl (record settings) empty).heights = changes (calledHeights settings moves) := by
  cases moves with
  | nil => cases travels : settings.travelStartsLayer <;> simp [calledHeights, travels] <;> rfl
  | cons move rest =>
      have all : calledHeights settings (move :: rest) =
          (if move.callsForLayer settings then move.stop.z else move.start.z) ::
            (rest.filter (·.callsForLayer settings)).map (·.stop.z) := by
        cases travels : settings.travelStartsLayer <;> cases extruding : move.extruding <;>
          simp_all [calledHeights, Move.callsForLayer, Option.filter_some]
      rw [List.foldl_cons, record_empty, heights_foldl_record, Layer.z_add, all, changes,
        List.destutter_cons']
      rfl

theorem heights_record {stack : Stack} (sound : stack.Sound) (settings : Settings) (move : Move) :
    (stack.record settings move).heights =
      match stack.heights.getLast? with
      | none => [if move.callsForLayer settings then move.stop.z else move.start.z]
      | some last =>
        if move.callsForLayer settings && !move.stop.z.equals last then
          stack.heights ++ [move.stop.z]
        else stack.heights := by
  obtain rfl | ⟨older, newest, rfl⟩ := sound.eq_empty_or_growing
  · simp [record_empty, heights]
  · have last : (growing older newest).heights.getLast? = some newest.z := by simp [heights]
    rw [record_growing, last]
    dsimp only
    split <;> simp [heights]

end Stack

def SameHeight (left right : Double) : Prop :=
  left.equals right = true ∨ left.isNaN = true ∧ right.isNaN = true

theorem sameHeight_self (height : Double) : SameHeight height height := by
  cases height with
  | nan => exact .inr ⟨rfl, rfl⟩
  | infinite => exact .inl (by simp [Binary.equals, Binary.compareWith, Binary.position?])
  | finite => exact .inl (by simp [Binary.equals, Binary.compareWith, Binary.position?])

theorem isNaN_of_equals {left right : Double} (same : left.equals right = true) :
    right.isNaN = false := by
  cases right with
  | nan => cases left <;> simp [Binary.equals, Binary.compareWith, Binary.position?] at same
  | infinite => rfl
  | finite => rfl

namespace Layer

/-- A layer holds something, and what was deposited lies at its height. At a height that is not a
number it holds no second deposit. When travel starts layers too, all this holds of every move. -/
structure Level (settings : Settings) (layer : Layer) : Prop where
  filled : layer.isEmpty = false
  deposits_level : ∀ kind, kind ≠ .travel → ∀ segment ∈ layer.segments kind,
    SameHeight segment.stop.z layer.z
  deposit_alone : layer.z.isNaN = true →
    (layer.segments .extruded).length + (layer.segments .support).length ≤ 1
  moves_level : settings.travelStartsLayer = true → ∀ kind, ∀ segment ∈ layer.segments kind,
    SameHeight segment.stop.z layer.z
  move_alone : settings.travelStartsLayer = true → layer.z.isNaN = true → layer.count = 1

def Requires (settings : Settings) (segment : Segment) : Prop :=
  segment.kind ≠ .travel ∨ settings.travelStartsLayer = true

theorem level_single (settings : Settings) (z : Double) (segment : Segment)
    (same : Requires settings segment → SameHeight segment.stop.z z) :
    ((empty z).add segment).Level settings := by
  constructor
  · simp [isEmpty]
  · intro kind deposit other member
    simp only [segments_add, segments_empty, List.nil_append, List.mem_ite_nil_right,
      List.mem_singleton] at member
    obtain ⟨rfl, rfl⟩ := member
    simpa using same (.inl deposit)
  · intro undefined
    cases kind : segment.kind <;> simp [kind]
  · intro travels kind other member
    simp only [segments_add, segments_empty, List.nil_append, List.mem_ite_nil_right,
      List.mem_singleton] at member
    obtain ⟨rfl, rfl⟩ := member
    simpa using same (.inr travels)
  · intro travels undefined
    simp

theorem Level.add {settings : Settings} {layer : Layer} (level : layer.Level settings)
    (segment : Segment) (same : Requires settings segment → segment.stop.z.equals layer.z = true) :
    (layer.add segment).Level settings := by
  constructor
  · simp [isEmpty]
  · intro kind deposit other member
    simp only [segments_add, List.mem_append, List.mem_ite_nil_right, List.mem_singleton] at member
    rw [z_add]
    obtain earlier | ⟨rfl, rfl⟩ := member
    · exact level.deposits_level kind deposit other earlier
    · exact .inl (same (.inl deposit))
  · intro undefined
    rw [z_add] at undefined
    have alone := level.deposit_alone undefined
    have travel : segment.kind = .travel := by
      by_contra deposit
      simp [isNaN_of_equals (same (.inl deposit))] at undefined
    simpa [travel] using alone
  · intro travels kind other member
    simp only [segments_add, List.mem_append, List.mem_ite_nil_right, List.mem_singleton] at member
    rw [z_add]
    obtain earlier | ⟨rfl, rfl⟩ := member
    · exact level.moves_level travels kind other earlier
    · exact .inl (same (.inr travels))
  · intro travels undefined
    rw [z_add, isNaN_of_equals (same (.inr travels))] at undefined
    contradiction

end Layer

namespace Stack

theorem callsForLayer_of_requires (settings : Settings) (move : Move)
    (required : Layer.Requires settings move.segment) : move.callsForLayer settings = true := by
  unfold Move.callsForLayer
  rcases required with deposit | travels
  · have extruding : move.extruding = true := by
      by_contra still
      rw [Bool.not_eq_true] at still
      exact deposit (by simp [Move.segment, Move.kind, still])
    simp [extruding]
  · simp [travels]

theorem level_record {stack : Stack} (sound : stack.Sound) (settings : Settings) (move : Move)
    (level : ∀ layer ∈ stack.layers, layer.Level settings) :
    ∀ layer ∈ (stack.record settings move).layers, layer.Level settings := by
  obtain rfl | ⟨older, newest, rfl⟩ := sound.eq_empty_or_growing
  · rw [record_empty, layers_growing, List.nil_append, List.forall_mem_singleton]
    refine Layer.level_single settings _ _ fun required => ?_
    rw [if_pos (callsForLayer_of_requires settings move required)]
    exact sameHeight_self _
  · rw [layers_growing] at level
    rw [record_growing]
    split
    · rw [layers_growing, List.forall_mem_append, List.forall_mem_singleton]
      exact ⟨level, Layer.level_single settings _ _ fun _ => sameHeight_self _⟩
    · rename_i continues
      rw [List.forall_mem_append, List.forall_mem_singleton] at level
      rw [layers_growing, List.forall_mem_append, List.forall_mem_singleton]
      refine ⟨level.1, level.2.add _ fun required => ?_⟩
      have called := callsForLayer_of_requires settings move required
      simpa [called, Move.segment] using continues

theorem level_foldl_record {stack : Stack} (sound : stack.Sound) (settings : Settings)
    (moves : List Move) (level : ∀ layer ∈ stack.layers, layer.Level settings) :
    ∀ layer ∈ (moves.foldl (record settings) stack).layers, layer.Level settings := by
  induction moves generalizing stack with
  | nil => exact level
  | cons move rest ih =>
      exact ih (sound.record settings move) (level_record sound settings move level)

theorem segments_run (settings : Settings) (commands : List Command) (kind : Kind) :
    (Machine.initial.run settings commands).stack.segments kind =
      ((moves settings.toolOffset commands).map Move.segment).filter (·.kind = kind) := by
  rw [Machine.stack_run, segments_foldl_record sound_empty]
  rfl

theorem sound_run (settings : Settings) (commands : List Command) :
    (Machine.initial.run settings commands).stack.Sound := by
  obtain ⟨edits, reached, -⟩ :=
    exists_edits_foldl_record settings empty (moves settings.toolOffset commands)
  rw [Machine.stack_run, reached]
  exact sound_empty.edited edits

end Stack

theorem sum_length_filter_kind (segments : List Segment) :
    (Kind.all.map fun kind => (segments.filter (·.kind = kind)).length).sum = segments.length := by
  simp only [Kind.all, List.map_cons, List.map_nil, List.sum_cons, List.sum_nil]
  induction segments with
  | nil => rfl
  | cons segment rest ih => cases kind : segment.kind <;> simp [kind] at ih ⊢ <;> omega

/-- Flattening the layers of a text gives back, kind by kind, the linear moves of that kind in
source order: none is lost, doubled or moved. Whether travel starts layers decides only where the
layers are cut. -/
theorem flattened_segments_eq_moves (settings : Settings) (text : String) :
    let commands := Command.ofText text.toList
    let moves := moves settings.toolOffset commands
    let flattened (settings : Settings) (kind : Kind) :=
      (Geometry.ofText settings text (some false)).flattened?.map (·.segments kind)
    (∀ kind, flattened settings kind = some ((moves.filter (·.leaves kind)).map fun move =>
      ⟨move.start, move.stop, kind⟩)) ∧
    (Kind.all.map (Geometry.ofText settings text none).count).sum =
      commands.countP Command.isMove ∧
    ∀ travelStartsLayer : Bool,
      let other := { settings with travelStartsLayer }
      (∀ kind, flattened other kind = flattened settings kind) ∧
      (∀ kind, (interpret other text).layers.flatMap (·.segments kind) =
        (interpret settings text).layers.flatMap (·.segments kind)) ∧
      (interpret other text).state = (interpret settings text).state ∧
      (interpret other text).diagnostics = (interpret settings text).diagnostics := by
  intro commands moves flattened
  have filed (settings : Settings) (kind : Kind) :
      (interpret settings text).layers.flatMap (·.segments kind) =
        ((Toolpath.moves settings.toolOffset commands).map Move.segment).filter (·.kind = kind) :=
    Stack.segments_run settings commands kind
  have flat (settings : Settings) (kind : Kind) : flattened settings kind =
      some (((Toolpath.moves settings.toolOffset commands).map Move.segment).filter
        (·.kind = kind)) := by
    rw [← filed, ← Flattened.segments_ofLayers]
    rfl
  refine ⟨fun kind => ?_, ?_, ?_⟩
  · rw [flat, Move.filter_kind_segment]
  · have counted (kind : Kind) : (Geometry.ofText settings text none).count kind =
        ((moves.map Move.segment).filter (·.kind = kind)).length := by
      rw [← filed settings kind]
      rfl
    have total : commands.countP Command.isMove = (moves.map Move.segment).length := by
      rw [List.length_map, length_moves]
    rw [total, ← sum_length_filter_kind]
    simp only [Kind.all, List.map_cons, List.map_nil, counted]
  · intro travelStartsLayer other
    refine ⟨fun kind => ?_, fun kind => ?_, ?_, ?_⟩
    · rw [flat, flat]
    · rw [filed, filed]
    · rw [interpret, interpret, Machine.state_run, Machine.state_run]
    · rw [interpret, interpret, Machine.diagnostics_run, Machine.diagnostics_run]

/-- The heights of the layers of a text are the changes among the heights that call for a layer. Seen
move by move: extrusion at the height of the newest layer starts none, extrusion at another height
starts one, and travel starts none unless the settings ask for it. -/
theorem heights_eq_changes (settings : Settings) (text : String) :
    (interpret settings text).stack.heights =
      changes (calledHeights settings
        (moves settings.toolOffset (Command.ofText text.toList))) ∧
    ∀ (before : List Command) (command : Command), command.isMove = true →
      let move := Move.ofLine settings.toolOffset before command
      let heights := (Machine.initial.run settings before).stack.heights
      let next := (Machine.initial.run settings (before ++ [command])).stack.heights
      (∀ last, heights.getLast? = some last → move.extruding = true →
        move.stop.z.equals last = true → next = heights) ∧
      (move.extruding = true → (∀ last, heights.getLast? = some last →
        move.stop.z.equals last = false) → next = heights ++ [move.stop.z]) ∧
      (settings.travelStartsLayer = false → move.extruding = false → heights ≠ [] →
        next = heights) := by
  refine ⟨?_, ?_⟩
  · rw [interpret, Machine.stack_run, Stack.heights_foldl_record_empty]
  · intro before command linear move heights next
    have recorded : next = ((Machine.initial.run settings before).stack.record settings
        move).heights := by
      simp only [next, Machine.stack_run_concat, linear, if_true, move]
    rw [Stack.heights_record (Stack.sound_run settings before)] at recorded
    refine ⟨?_, ?_, ?_⟩
    · intro last newest extruding same
      simpa [heights, newest, same] using recorded
    · intro extruding new
      cases newest : heights.getLast? with
      | none =>
          have first : heights = [] := List.getLast?_eq_none_iff.mp newest
          simpa [heights, newest, first, Move.callsForLayer, extruding] using recorded
      | some last =>
          simpa [heights, newest, new last newest, Move.callsForLayer, extruding] using recorded
    · intro stays travels grown
      cases newest : heights.getLast? with
      | none => exact absurd (List.getLast?_eq_none_iff.mp newest) grown
      | some last => simpa [heights, newest, Move.callsForLayer, stays, travels] using recorded

theorem heights_of_malformed :
    let before := Command.ofText "G1 Zbad E1".toList
    let command := Command.ofLine "G1 X5 E2".toList 2
    command.isMove = true ∧ (Machine.initial.run .standard before).stack.heights = [.nan] ∧
      (Machine.initial.run .standard (before ++ [command])).stack.heights = [.nan, .nan] := by
  have linear : (Command.ofLine "G1 X5 E2".toList 2).isMove = true := by decide +kernel
  have first : (Machine.initial.run .standard (Command.ofText "G1 Zbad E1".toList)).stack.heights =
      [.nan] := by decide +kernel
  refine ⟨linear, first, ?_⟩
  have started := ((heights_eq_changes .standard "").2 (Command.ofText "G1 Zbad E1".toList) _
    linear).2.1 (by decide +kernel) (by rw [first]; simp; decide +kernel)
  rw [started, first]
  decide +kernel

theorem layers_level (settings : Settings) (text : String) :
    ∀ layer ∈ (interpret settings text).layers, layer.Level settings := by
  intro layer member
  rw [Machine.layers, interpret, Machine.stack_run] at member
  exact Stack.level_foldl_record Stack.sound_empty settings _ (by simp) layer member

theorem layers_level_of_malformed :
    let layer := (Layer.empty .nan).add ⟨⟨0, 0, 0⟩, ⟨0, 0, .nan⟩, .support⟩
    layer ∈ (interpret .standard "G1 Zbad E1\nG1 X5 E2").layers ∧ layer.Level .standard :=
  ⟨by decide +kernel,
    layers_level .standard "G1 Zbad E1\nG1 X5 E2" _ (by decide +kernel)⟩

end Toolpath
