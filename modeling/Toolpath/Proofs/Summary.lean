import Toolpath.CommandLine.Run
import Toolpath.Proofs.Lines
import Toolpath.Proofs.Spelling

/-! What the lines printed for a geometry state, as it can be read back from them. -/

namespace Toolpath

open Text

def figures : List Char := "+-.0123456789aefin".toList

def Figured (text : String) : Prop := ∀ char ∈ text.toList, char ∈ figures

instance (text : String) : Decidable (Figured text) :=
  List.decidableBAll _ text.toList

theorem figured_append {left right : String} (first : Figured left) (second : Figured right) :
    Figured (left ++ right) := by
  intro char member
  rw [String.toList_append, List.mem_append] at member
  exact member.elim (first char) (second char)

theorem figured_ofList {text : List Char} (digits : ∀ char ∈ text, char.isDigit = true) :
    Figured (String.ofList text) := by
  intro char member
  rw [String.toList_ofList] at member
  have known : "0123456789".toList ⊆ figures := by decide
  exact known (mem_digits_of_isDigit (digits char member))

theorem toList_toString_nat (value : Nat) : (toString value).toList = Nat.toDigits 10 value :=
  Nat.toList_repr

theorem figured_toString (value : Nat) : Figured (toString value) := by
  rw [← String.ofList_toList (s := toString value), toList_toString_nat]
  exact figured_ofList fun _ => isDigit_of_mem_toDigits

namespace Style

theorem figured_exponentText (order : Int) : Figured (exponentText order) := by
  have sign : Figured (if order < 0 then "e-" else "e+") := by
    split
    · decide
    · decide
  refine figured_append sign ?_
  split
  · exact figured_append (by decide) (figured_toString _)
  · exact figured_toString _

theorem figured_write (style : Style) {digits : List Char} (order : Int)
    (plain : ∀ char ∈ digits, char.isDigit = true) : Figured (style.write digits order) := by
  have zeros (count : Nat) : ∀ char ∈ List.replicate count '0', char.isDigit = true := by
    intro char member
    rw [List.eq_of_mem_replicate member]
    decide
  unfold write
  split
  · cases digits with
    | nil => exact (of_decide_eq_true rfl : Figured "")
    | cons lead rest =>
        rw [List.forall_mem_cons] at plain
        have first : Figured (String.singleton lead) :=
          @figured_ofList [lead] (by simpa using plain.1)
        cases rest with
        | nil => exact figured_append first (figured_exponentText order)
        | cons next others =>
            exact figured_append (figured_append (figured_append first (by decide))
              (figured_ofList plain.2)) (figured_exponentText order)
  · split
    · refine figured_append (by decide) (figured_ofList ?_)
      intro char member
      exact (List.mem_append.mp member).elim (zeros _ char) (plain char)
    · refine figured_append (figured_ofList ?_) ?_
      · intro char member
        rcases List.mem_append.mp member with taken | padding
        · exact plain char (List.mem_of_mem_take taken)
        · exact zeros _ char padding
      · split
        · split
          · decide
          · decide
        · exact figured_append (by decide)
            (figured_ofList fun char member => plain char (List.mem_of_mem_drop member))

theorem figured_writeDecimal (style : Style) (decimal : Decimal) :
    Figured (style.writeDecimal decimal) := by
  refine style.figured_write _ ?_
  intro char member
  rw [List.mem_reverse] at member
  have digit := List.mem_reverse.mp ((List.dropWhile_sublist _).subset member)
  exact isDigit_of_mem_toDigits digit

end Style

theorem Binary.figured_summaryText {format : Format} (number : Binary format) :
    Figured number.summaryText := by
  have sign (negative : Bool) : Figured (signText negative) := by
    cases negative with
    | false => decide
    | true => decide
  cases number with
  | nan => exact (of_decide_eq_true rfl : Figured "nan")
  | infinite negative => exact figured_append (sign negative) (by decide)
  | finite negative steps exact' =>
      refine figured_append (sign negative) ?_
      split
      · decide
      · exact Style.figured_writeDecimal _ _

theorem unbroken_of_figured {text : String} (plain : Figured text) : Unbroken text.toList := by
  have known : Unbroken figures := by decide
  exact fun char member => known char (plain char member)

theorem not_isBlank_of_figured {text : String} (plain : Figured text) :
    ∀ char ∈ text.toList, isBlank char = false := by
  have known : figures.all (!isBlank ·) = true := by decide
  intro char member
  simpa using List.all_eq_true.mp known char (plain char member)

theorem unbroken_append {left right : List Char} :
    Unbroken (left ++ right) ↔ Unbroken left ∧ Unbroken right := by
  simp only [Unbroken, List.mem_append, or_imp, forall_and]

namespace CommandLine

theorem lines_joinLines {texts : List String} (plain : ∀ text ∈ texts, Unbroken text.toList) :
    lines (joinLines texts).toList = texts.map String.toList := by
  have flat : (joinLines texts).toList = (texts.map String.toList).flatMap (· ++ ['\n']) := by
    induction texts with
    | nil => rfl
    | cons text rest ih =>
        rw [List.forall_mem_cons] at plain
        rw [joinLines, List.map_cons, String.join_cons, ← joinLines, String.toList_append,
          ih plain.2, String.toList_append]
        rfl
  rw [flat, lines_joined]
  intro line member
  obtain ⟨text, listed, rfl⟩ := List.mem_map.mp member
  exact plain text listed

def counted (subject : String) (count : Kind → Nat) : String :=
  subject ++ ": extruded " ++ toString (count .extruded) ++ ", support " ++
    toString (count .support) ++ ", travel " ++ toString (count .travel)

theorem counted_eq (subject : String) (count : Kind → Nat) :
    subject ++ ": " ++ countsText count = counted subject count := by
  apply String.toList_injective
  simp [counted, countsText, Kind.all, Kind.name]

/-- The number that a line states for a kind: the digits of the word behind the name. -/
def stated (line : List Char) (kind : Kind) : Nat :=
  match (words line).dropWhile (· ≠ kind.name.toList) with
  | _ :: number :: _ => Nat.ofDigitChars 10 (number.takeWhile Char.isDigit) 0
  | _ => 0

def Nameless (subject : String) : Prop :=
  ∀ word ∈ words (subject ++ ":").toList, ∀ kind : Kind, word ≠ kind.name.toList

def Solid (word : List Char) : Prop := word ≠ [] ∧ ∀ char ∈ word, isBlank char = false

theorem solid_of_checked {word : List Char}
    (checked : (!word.isEmpty && word.all (!isBlank ·)) = true) : Solid word := by
  simpa [Solid] using checked

theorem solid_toDigits (number : Nat) : Solid (Nat.toDigits 10 number) := by
  refine ⟨Nat.toDigits_ne_nil, ?_⟩
  rw [← toList_toString_nat]
  exact not_isBlank_of_figured (figured_toString number)

theorem solid_append {word : List Char} {last : Char} (solid : ∀ char ∈ word, isBlank char = false)
    (filled : isBlank last = false) : Solid (word ++ [last]) := by
  refine ⟨by simp, fun char member => ?_⟩
  rcases List.mem_append.mp member with inside | ending
  · exact solid char inside
  · rwa [List.mem_singleton.mp ending]

theorem words_counted (subject : String) (count : Kind → Nat) :
    words (counted subject count).toList = words (subject ++ ":").toList ++
      [Kind.extruded.name.toList, Nat.toDigits 10 (count .extruded) ++ [','],
        Kind.support.name.toList, Nat.toDigits 10 (count .support) ++ [','],
        Kind.travel.name.toList, Nat.toDigits 10 (count .travel)] := by
  have comma : isBlank ',' = false := by decide
  have listed (number : Nat) := solid_append (solid_toDigits number).2 comma
  have name (kind : Kind) : Solid kind.name.toList := by
    cases kind <;> exact solid_of_checked (by decide)
  have parts : (counted subject count).toList = (subject ++ ":").toList ++
      ' ' :: (Kind.extruded.name.toList ++ [Nat.toDigits 10 (count .extruded) ++ [','],
        Kind.support.name.toList, Nat.toDigits 10 (count .support) ++ [','],
        Kind.travel.name.toList, Nat.toDigits 10 (count .travel)].flatMap (' ' :: ·)) := by
    simp [counted, Kind.name]
  rw [parts, words_append_blank _ _ (by decide), words_spaced]
  simp only [List.forall_mem_cons]
  exact ⟨name _, listed _, name _, listed _, name _, solid_toDigits _, by simp⟩

theorem digits_ne_name (number : Nat) (kind : Kind) :
    Nat.toDigits 10 number ≠ kind.name.toList := by
  intro same
  have digits : kind.name.toList.all Char.isDigit = true := by
    rw [← same, List.all_eq_true]
    exact fun _ => isDigit_of_mem_toDigits
  cases kind <;> exact absurd digits (by decide)

theorem listed_ne_name (digits : List Char) (kind : Kind) :
    digits ++ [','] ≠ kind.name.toList := by
  intro same
  have comma : ',' ∈ kind.name.toList := by simp [← same]
  cases kind <;> exact absurd comma (by decide)

theorem ofDigitChars_takeWhile (number : Nat) (rest : List Char)
    (stops : ∀ char ∈ rest, char.isDigit = false) :
    Nat.ofDigitChars 10 ((Nat.toDigits 10 number ++ rest).takeWhile Char.isDigit) 0 = number := by
  rw [List.takeWhile_append_of_pos fun _ => isDigit_of_mem_toDigits]
  cases rest with
  | nil => simp [Nat.ofDigitChars_ten_toDigits]
  | cons char rest => simp [stops char (by simp), Nat.ofDigitChars_ten_toDigits]

theorem stated_counted {subject : String} (nameless : Nameless subject) (count : Kind → Nat)
    (kind : Kind) : stated (counted subject count).toList kind = count kind := by
  have read (number : Nat) := ofDigitChars_takeWhile number [','] (by simp)
  have last (number : Nat) := ofDigitChars_takeWhile number [] (by simp)
  simp only [List.append_nil] at last
  have skip {word : List Char} (rest : List (List Char)) (other : word ≠ kind.name.toList) :
      (word :: rest).dropWhile (· ≠ kind.name.toList) = rest.dropWhile (· ≠ kind.name.toList) :=
    List.dropWhile_cons_of_pos (decide_eq_true other)
  have stop (rest : List (List Char)) : (kind.name.toList :: rest).dropWhile
      (· ≠ kind.name.toList) = kind.name.toList :: rest :=
    List.dropWhile_cons_of_neg (by simp)
  rw [stated, words_counted, List.dropWhile_append_of_pos fun word member =>
    decide_eq_true (nameless word member kind)]
  cases kind with
  | extruded =>
      rw [stop]
      exact read _
  | support =>
      rw [skip _ (by decide), skip _ (listed_ne_name _ _), stop]
      exact read _
  | travel =>
      rw [skip _ (by decide), skip _ (listed_ne_name _ _), skip _ (by decide),
        skip _ (listed_ne_name _ _), stop]
      exact last _

theorem unbroken_counted {subject : String} (plain : Unbroken subject.toList)
    (count : Kind → Nat) : Unbroken (counted subject count).toList := by
  have number (kind : Kind) : Unbroken (toString (count kind)).toList :=
    unbroken_of_figured (figured_toString _)
  have text : Unbroken ": extruded ".toList ∧ Unbroken ", support ".toList ∧
      Unbroken ", travel ".toList := by decide
  simp only [counted, String.toList_append, unbroken_append]
  exact ⟨⟨⟨⟨⟨⟨plain, text.1⟩, number _⟩, text.2.1⟩, number _⟩, text.2.2⟩, number _⟩

def layerSubject (index : Nat) (z : Double) : String :=
  "layer " ++ toString index ++ " z=" ++ z.summaryText

def totalSubject (layerCount : Nat) : String := toString layerCount ++ " layers"

theorem words_layerSubject (index : Nat) (z : Double) :
    words (layerSubject index z ++ ":").toList =
      ["layer".toList, Nat.toDigits 10 index, 'z' :: '=' :: z.summaryText.toList ++ [':']] := by
  have height : ∀ char ∈ 'z' :: '=' :: z.summaryText.toList, isBlank char = false := by
    simp only [List.forall_mem_cons]
    exact ⟨by decide, by decide, not_isBlank_of_figured z.figured_summaryText⟩
  have parts : (layerSubject index z ++ ":").toList = "layer".toList ++
      [Nat.toDigits 10 index, 'z' :: '=' :: z.summaryText.toList ++ [':']].flatMap (' ' :: ·) := by
    simp [layerSubject]
  rw [parts, words_spaced]
  simp only [List.forall_mem_cons]
  exact ⟨solid_of_checked (by decide), solid_toDigits index, solid_append height (by decide),
    by simp⟩

theorem words_totalSubject (layerCount : Nat) :
    words (totalSubject layerCount ++ ":").toList =
      [Nat.toDigits 10 layerCount, "layers:".toList] := by
  have parts : (totalSubject layerCount ++ ":").toList =
      Nat.toDigits 10 layerCount ++ ["layers:".toList].flatMap (' ' :: ·) := by
    simp [totalSubject]
  rw [parts, words_spaced]
  simp only [List.forall_mem_cons]
  exact ⟨solid_toDigits layerCount, solid_of_checked (by decide), by simp⟩

theorem nameless_layerSubject (index : Nat) (z : Double) : Nameless (layerSubject index z) := by
  rw [Nameless, words_layerSubject]
  simp only [List.forall_mem_cons]
  refine ⟨?_, digits_ne_name index, ?_, by simp⟩
  · intro kind
    cases kind <;> decide
  · intro kind same
    have first : kind.name.toList.head? = some 'z' := by rw [← same, List.cons_append, List.head?]
    cases kind <;> exact absurd first (by decide)

theorem nameless_totalSubject (layerCount : Nat) : Nameless (totalSubject layerCount) := by
  rw [Nameless, words_totalSubject]
  simp only [List.forall_mem_cons]
  refine ⟨digits_ne_name layerCount, ?_, by simp⟩
  intro kind
  cases kind <;> decide

theorem unbroken_layerSubject (index : Nat) (z : Double) :
    Unbroken (layerSubject index z).toList := by
  have text : Unbroken "layer ".toList ∧ Unbroken " z=".toList := by decide
  simp only [layerSubject, String.toList_append, unbroken_append]
  exact ⟨⟨⟨text.1, unbroken_of_figured (figured_toString index)⟩, text.2⟩,
    unbroken_of_figured z.figured_summaryText⟩

theorem unbroken_totalSubject (layerCount : Nat) : Unbroken (totalSubject layerCount).toList := by
  rw [totalSubject, String.toList_append, unbroken_append]
  exact ⟨unbroken_of_figured (figured_toString layerCount), by decide⟩

theorem summary_split (layers : List Layer) :
    summary ⟨layers, true⟩ = layers.zipIdx.map fun (layer, index) =>
      counted (layerSubject index layer.z) fun kind => (layer.segments kind).length := by
  simp only [← counted_eq]
  rfl

theorem summary_flat (layers : List Layer) :
    summary ⟨layers, false⟩ = [counted (totalSubject layers.length)
      (Geometry.count ⟨layers, false⟩)] := by
  have totals : (fun kind => ((Flattened.ofLayers layers).segments kind).length) =
      Geometry.count ⟨layers, false⟩ :=
    funext fun kind => congrArg List.length (Flattened.segments_ofLayers layers kind)
  have subject : toString layers.length ++ " layers: " = totalSubject layers.length ++ ": " := by
    rw [totalSubject, String.append_assoc]
    rfl
  rw [← counted_eq, ← totals, ← subject]
  rfl

theorem unbroken_summary (geometry : Geometry) :
    ∀ line ∈ summary geometry, Unbroken line.toList := by
  obtain ⟨layers, splitLayers⟩ := geometry
  intro line member
  cases splitLayers with
  | true =>
      rw [summary_split] at member
      obtain ⟨⟨layer, index⟩, _, rfl⟩ := List.mem_map.mp member
      exact unbroken_counted (unbroken_layerSubject index layer.z) _
  | false =>
      rw [summary_flat] at member
      rw [List.mem_singleton.mp member]
      exact unbroken_counted (unbroken_totalSubject layers.length) _

/-- A line is about a subject and states a count for each kind. -/
structure States (line subject : String) (count : Kind → Nat) : Prop where
  text : line = counted subject count
  read : ∀ kind, stated line.toList kind = count kind

theorem states_counted {subject : String} (nameless : Nameless subject) (count : Kind → Nat) :
    States (counted subject count) subject count :=
  ⟨rfl, stated_counted nameless count⟩

/-- Some lines are the summary of a geometry: one line for each layer, in order, or one for all. -/
structure Summarizes (printed : List String) (geometry : Geometry) : Prop where
  split : geometry.splitLayers = true →
    List.Forall₂ (fun line (layer, index) => States line (layerSubject index layer.z)
      fun kind => (layer.segments kind).length) printed geometry.layers.zipIdx
  flat : geometry.splitLayers = false →
    ∃ line, printed = [line] ∧ States line (totalSubject geometry.layers.length) geometry.count

theorem summarizes_summary (geometry : Geometry) : Summarizes (summary geometry) geometry := by
  obtain ⟨layers, splitLayers⟩ := geometry
  cases splitLayers with
  | true =>
      refine ⟨fun _ => ?_, nofun⟩
      rw [summary_split, List.forall₂_map_left_iff, List.forall₂_same]
      rintro ⟨layer, index⟩ _
      exact states_counted (nameless_layerSubject index layer.z) _
  | false => exact ⟨nofun, fun _ =>
      ⟨_, summary_flat layers, states_counted (nameless_totalSubject layers.length) _⟩⟩

def statedTotal (line : List Char) : Nat := (Kind.all.map (stated line)).sum

theorem statedTotal_counted {subject : String} (nameless : Nameless subject)
    (count : Kind → Nat) : statedTotal (counted subject count).toList =
      (Kind.all.map count).sum := by
  rw [statedTotal]
  congr 1
  exact List.map_congr_left fun kind _ => stated_counted nameless count kind

theorem sum_length_segments (layer : Layer) :
    (Kind.all.map fun kind => (layer.segments kind).length).sum = layer.count := by
  simp [Kind.all, Layer.segments, Layer.count, Nat.add_assoc]

theorem sum_count (layers : List Layer) (splitLayers : Bool) :
    (Kind.all.map (Geometry.count ⟨layers, splitLayers⟩)).sum = (layers.map Layer.count).sum := by
  induction layers with
  | nil => rfl
  | cons layer rest ih =>
      rw [List.map_cons, List.sum_cons, ← ih, ← sum_length_segments]
      simp [Kind.all, Geometry.count]
      omega

theorem sum_stated_summary (geometry : Geometry) :
    ((summary geometry).map fun line => statedTotal line.toList).sum =
      (geometry.layers.map Layer.count).sum := by
  obtain ⟨layers, splitLayers⟩ := geometry
  cases splitLayers with
  | false =>
      rw [summary_flat, List.map_singleton, List.sum_singleton,
        statedTotal_counted (nameless_totalSubject layers.length), sum_count]
  | true =>
      rw [summary_split, List.map_map]
      have line (entry : Layer × Nat) := (statedTotal_counted
        (nameless_layerSubject entry.2 entry.1.z) fun kind =>
          (entry.1.segments kind).length).trans (sum_length_segments entry.1)
      simp only [Function.comp_def, line]
      rw [← Function.comp_def Layer.count Prod.fst, ← List.map_map, List.zipIdx_map_fst]

end CommandLine

end Toolpath
