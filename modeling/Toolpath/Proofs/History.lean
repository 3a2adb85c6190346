import Toolpath.Proofs.Layering

/-!
What is recorded stays as it was: no edit touches any layer but the newest, and that one only grows
at the ends of its lists (`Stack.layers_edited_growing`).
-/

namespace Toolpath

namespace Layer

/-- What adding segments makes of a layer: the height stays, and each list goes on with the segments
of its kind. -/
structure Grows (added : List Segment) (layer later : Layer) : Prop where
  level : later.z = layer.z
  lists : ∀ kind, later.segments kind = layer.segments kind ++ added.filter (·.kind = kind)

theorem Grows.refl (layer : Layer) : layer.Grows [] layer := ⟨rfl, fun kind => by simp⟩

theorem Grows.cons {added : List Segment} {layer later : Layer} {segment : Segment}
    (grows : (layer.add segment).Grows added later) : layer.Grows (segment :: added) later := by
  refine ⟨grows.level.trans (z_add layer segment), fun kind => ?_⟩
  rw [grows.lists, segments_add, List.append_assoc, List.filter_cons]
  by_cases same : segment.kind = kind <;> simp [same]

end Layer

/-- How layers go on when segments are added. All but the newest are as they were; the newest has
grown by the first of the segments, and the others lie in layers behind it. -/
inductive Continues (added : List Segment) : List Layer → List Layer → Prop
  | opened {more : List Layer}
      (filed : ∀ kind, more.flatMap (·.segments kind) = added.filter (·.kind = kind)) :
      Continues added [] more
  | grown {older more : List Layer} {newest later : Layer} {held fresh : List Segment}
      (parts : held ++ fresh = added) (grows : newest.Grows held later)
      (filed : ∀ kind, more.flatMap (·.segments kind) = fresh.filter (·.kind = kind)) :
      Continues added (older ++ [newest]) (older ++ later :: more)

namespace Stack

theorem segments_edit {stack : Stack} (sound : stack.Sound) (change : Edit) (kind : Kind) :
    (stack.edit change).segments kind =
      stack.segments kind ++ change.segment?.toList.filter (·.kind = kind) := by
  cases change with
  | start z => simp [edit, startLayer_eq_growing, segments, Edit.segment?]
  | add segment =>
      have filed : [segment].filter (·.kind = kind) =
          if segment.kind = kind then [segment] else [] := by
        by_cases same : segment.kind = kind <;> simp [same]
      obtain rfl | ⟨older, newest, rfl⟩ := sound.eq_empty_or_growing <;>
        simp [edit, segments, Edit.segment?, filed]

theorem segments_edited {stack : Stack} (sound : stack.Sound) (edits : List Edit) (kind : Kind) :
    (stack.edited edits).segments kind =
      stack.segments kind ++ (Edit.segments edits).filter (·.kind = kind) := by
  induction edits generalizing stack with
  | nil => simp [edited, Edit.segments]
  | cons change rest ih =>
      have front : Edit.segments (change :: rest) =
          change.segment?.toList ++ Edit.segments rest := by
        cases change <;> rfl
      rw [edited, List.foldl_cons, ← edited, ih (sound.edit change), segments_edit sound,
        List.append_assoc, front, List.filter_append]

theorem layers_edited_growing (edits : List Edit) : ∀ (older : List Layer) (newest : Layer),
    ∃ (later : Layer) (more : List Layer) (held fresh : List Segment),
      ((growing older newest).edited edits).layers = older ++ later :: more ∧
      held ++ fresh = Edit.segments edits ∧ newest.Grows held later ∧
      ∀ kind, more.flatMap (·.segments kind) = fresh.filter (·.kind = kind) := by
  induction edits with
  | nil =>
      intro older newest
      exact ⟨newest, [], [], [], rfl, rfl, .refl newest, fun kind => rfl⟩
  | cons change rest ih =>
      intro older newest
      rw [edited, List.foldl_cons, ← edited]
      cases change with
      | start z =>
          obtain ⟨later, more, held, fresh, reached, parts, grows, filed⟩ :=
            ih (older ++ [newest]) (.empty z)
          refine ⟨newest, later :: more, [], held ++ fresh, ?_, parts, .refl newest, ?_⟩
          · rw [edit, startLayer_eq_growing, layers_growing, reached, List.append_assoc,
              List.singleton_append]
          · intro kind
            have started := grows.lists kind
            rw [Layer.segments_empty, List.nil_append] at started
            rw [List.flatMap_cons, started, filed kind, List.filter_append]
      | add segment =>
          obtain ⟨later, more, held, fresh, reached, parts, grows, filed⟩ :=
            ih older (newest.add segment)
          refine ⟨later, more, segment :: held, fresh, ?_, ?_, grows.cons, filed⟩
          · rw [edit, add_growing, reached]
          · rw [List.cons_append, parts]
            rfl

theorem Sound.continues_edited {stack : Stack} (sound : stack.Sound) (edits : List Edit) :
    Continues (Edit.segments edits) stack.layers (stack.edited edits).layers := by
  obtain rfl | ⟨older, newest, rfl⟩ := sound.eq_empty_or_growing
  · exact .opened fun kind => segments_edited sound_empty edits kind
  · obtain ⟨later, more, held, fresh, reached, parts, grows, filed⟩ :=
      layers_edited_growing edits older newest
    rw [reached, layers_growing]
    exact .grown parts grows filed

end Stack

theorem Machine.stack_run_append (settings : Settings) (past future : List Command) :
    ((initial.run settings past).run settings future).stack =
      (movesAfter settings.toolOffset past future).foldl (Stack.record settings)
        (initial.run settings past).stack := by
  rw [← run_append, stack_run, stack_run, moves_append, List.foldl_append]

/-- However layers are started and segments added, the current layer is the last one. However a
history of edits goes on, its layers continue those it had, by the segments that the later edits add;
and however a program goes on, its layers continue those it had, by the segments of its later
moves. -/
theorem history_continues :
    (∀ past future : List Edit,
      let stack := Stack.empty.edited past
      (∀ place, stack.current = some place ↔ place + 1 = stack.layers.length) ∧
        stack.current? = stack.layers.getLast? ∧ (stack.current? = none ↔ stack.layers = []) ∧
        Continues (Edit.segments future) stack.layers (stack.edited future).layers) ∧
    ∀ (settings : Settings) (past future : List Command),
      let machine := Machine.initial.run settings past
      let stack := machine.stack
      let added := (movesAfter settings.toolOffset past future).map Move.segment
      (∀ place, stack.current = some place ↔ place + 1 = stack.layers.length) ∧
        stack.current? = stack.layers.getLast? ∧ (stack.current? = none ↔ stack.layers = []) ∧
        Continues added machine.layers (machine.run settings future).layers := by
  refine ⟨?_, ?_⟩
  · intro past future stack
    have sound : stack.Sound := Stack.sound_empty.edited past
    exact ⟨sound, sound.current?_eq_getLast?, sound.current?_eq_none_iff,
      sound.continues_edited future⟩
  · intro settings past future machine stack added
    have sound : stack.Sound := Stack.sound_run settings past
    refine ⟨sound, sound.current?_eq_getLast?, sound.current?_eq_none_iff, ?_⟩
    obtain ⟨edits, reached, moved⟩ := Stack.exists_edits_foldl_record settings stack
      (movesAfter settings.toolOffset past future)
    have recorded : (machine.run settings future).layers = (stack.edited edits).layers := by
      rw [← reached]
      exact congrArg Stack.layers (Machine.stack_run_append settings past future)
    rw [recorded, show added = Edit.segments edits from moved.symm]
    exact sound.continues_edited edits

end Toolpath
