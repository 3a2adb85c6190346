import Mathlib.Data.List.Forall2
import Toolpath.Geometry.Record
import Toolpath.Proofs.ShortestText

/-!
The text of a record can be read back. `Json.read?` scans a text once, with a stack of what is open;
what reads as a value does so wherever it stands (`Json.Reads`).
-/

namespace Toolpath

namespace Json

/-- A value as it is read. Numbers, truth values and null are words. -/
inductive Value where
  | word (text : List Char)
  | string (text : List Char)
  | array (items : List Value)
  | object (members : List (List Char × Value))

inductive Opened where
  | array (items : List Value)
  | object (members : List (List Char × Value)) (key : List Char)

def Opened.put (value : Value) : List Opened → List Opened
  | .array items :: outer => .array (items ++ [value]) :: outer
  | .object members key :: outer => .object (members ++ [(key, value)]) [] :: outer
  | [] => []

/-- What is open, the value behind the last comma or bracket, and the text behind an open quote. -/
structure Scan where
  opened : List Opened
  last : Option Value
  quoted : Option (List Char)

namespace Scan

def filled (scan : Scan) : List Opened :=
  match scan.last with
  | none => scan.opened
  | some value => Opened.put value scan.opened

def named (scan : Scan) : Scan :=
  match scan.opened, scan.last with
  | .object members _ :: outer, some (.string key) => ⟨.object members key :: outer, none, none⟩
  | _, _ => scan

def closed (scan : Scan) : Scan :=
  match scan.filled with
  | .array items :: outer => ⟨outer, some (.array items), none⟩
  | .object members _ :: outer => ⟨outer, some (.object members), none⟩
  | [] => scan

def spelled (scan : Scan) (char : Char) : Scan :=
  match scan.last with
  | some (.word text) => { scan with last := some (.word (text ++ [char])) }
  | _ => { scan with last := some (.word [char]) }

def step (scan : Scan) (char : Char) : Scan :=
  match scan.quoted with
  | some text =>
    if char = '"' then ⟨scan.opened, some (.string text), none⟩
    else { scan with quoted := some (text ++ [char]) }
  | none =>
    if char = '"' then { scan with quoted := some [] }
    else if char = '[' then ⟨.array [] :: scan.opened, none, none⟩
    else if char = '\x7b' then ⟨.object [] [] :: scan.opened, none, none⟩
    else if char = ',' then ⟨scan.filled, none, none⟩
    else if char = ':' then scan.named
    else if char = ']' || char = '\x7d' then scan.closed
    else if char = ' ' then scan
    else scan.spelled char

end Scan

def read? (text : List Char) : Option Value :=
  match text.foldl Scan.step ⟨[], none, none⟩ with
  | ⟨[], last, none⟩ => last
  | _ => none

/-- Holds of a text that is read as a value whatever is open. -/
def Reads (text : List Char) (value : Value) : Prop :=
  ∀ opened, text.foldl Scan.step ⟨opened, none, none⟩ = ⟨opened, some value, none⟩

theorem Reads.read? {text : List Char} {value : Value} (reads : Reads text value) :
    read? text = some value := by
  rw [Json.read?, reads]

def isPlain (char : Char) : Bool := !(['"', '[', ']', '\x7b', '\x7d', ',', ':', ' '].contains char)

def Plain (text : List Char) : Prop := ∀ char ∈ text, isPlain char = true

theorem step_of_isPlain {char : Char} (plain : isPlain char = true) (opened : List Opened)
    (last : Option Value) :
    Scan.step ⟨opened, last, none⟩ char = Scan.spelled ⟨opened, last, none⟩ char := by
  simp only [isPlain, List.contains_cons, List.contains_nil, Bool.or_false, Bool.not_eq_true',
    Bool.or_eq_false_iff, beq_eq_false_iff_ne] at plain
  simp [Scan.step, plain]

theorem foldl_word (opened : List Opened) {more : List Char} (plain : Plain more)
    (text : List Char) :
    more.foldl Scan.step ⟨opened, some (.word text), none⟩ =
      ⟨opened, some (.word (text ++ more)), none⟩ := by
  induction more generalizing text with
  | nil => simp
  | cons char rest ih =>
      rw [Plain, List.forall_mem_cons] at plain
      rw [List.foldl_cons, step_of_isPlain plain.1, Scan.spelled, ih plain.2]
      simp

theorem reads_word {text : List Char} (filled : text ≠ []) (plain : Plain text) :
    Reads text (.word text) := by
  intro opened
  obtain ⟨char, rest, rfl⟩ := List.exists_cons_of_ne_nil filled
  rw [Plain, List.forall_mem_cons] at plain
  rw [List.foldl_cons, step_of_isPlain plain.1, Scan.spelled, foldl_word opened plain.2]
  rfl

theorem foldl_quoted (opened : List Opened) (last : Option Value) {more : List Char}
    (bare : '"' ∉ more) (text : List Char) :
    (more ++ ['"']).foldl Scan.step ⟨opened, last, some text⟩ =
      ⟨opened, some (.string (text ++ more)), none⟩ := by
  induction more generalizing text with
  | nil => simp [Scan.step]
  | cons char rest ih =>
      rw [List.mem_cons, not_or] at bare
      have other : char ≠ '"' := fun same => bare.1 same.symm
      rw [List.cons_append, List.foldl_cons, Scan.step]
      simp only [other, if_false]
      rw [ih bare.2]
      simp

def Fills (text : List Char) (before after : Opened) : Prop :=
  ∀ outer, ∃ last opened,
    text.foldl Scan.step ⟨before :: outer, none, none⟩ = ⟨opened, last, none⟩ ∧
      Scan.filled ⟨opened, last, none⟩ = after :: outer

theorem Reads.fills {text : List Char} {value : Value} (reads : Reads text value)
    (before after : Opened) (put : ∀ outer, Opened.put value (before :: outer) = after :: outer) :
    Fills text before after :=
  fun outer => ⟨some value, before :: outer, reads _, put outer⟩

theorem fills_separated {α : Type} (grown : List α → Opened) {pieces : List (List Char)}
    {items : List α} (each : List.Forall₂ (fun piece item => ∀ done : List α,
      Fills piece (grown done) (grown (done ++ [item]))) pieces items) (done : List α) :
    Fills ([',', ' '].intercalate pieces) (grown done) (grown (done ++ items)) := by
  induction each generalizing done with
  | nil =>
      intro outer
      exact ⟨none, _, rfl, by simp [Scan.filled]⟩
  | @cons piece item rest others first _ ih =>
      cases rest with
      | nil =>
          cases others with
          | nil => simpa using first done
          | cons => contradiction
      | cons next more =>
          intro outer
          obtain ⟨last, opened, scanned, put⟩ := first done outer
          obtain ⟨final, reached, ended, closes⟩ := ih (done ++ [item]) outer
          refine ⟨final, reached, ?_, by simpa using closes⟩
          rw [List.intercalate_cons_cons, List.foldl_append, List.foldl_append, scanned]
          rw [← ended, ← put]
          rfl

theorem reads_bracketed {α : Type} (grown : List α → Opened) (value : List α → Value)
    {first last : Char} (opens : ∀ opened,
      Scan.step ⟨opened, none, none⟩ first = ⟨grown [] :: opened, none, none⟩)
    (closes : ∀ opened final items outer, Scan.filled ⟨opened, final, none⟩ = grown items :: outer →
      Scan.step ⟨opened, final, none⟩ last = ⟨outer, some (value items), none⟩)
    {pieces : List (List Char)} {items : List α}
    (each : List.Forall₂ (fun piece item => ∀ done : List α,
      Fills piece (grown done) (grown (done ++ [item]))) pieces items) :
    Reads (first :: ([',', ' '].intercalate pieces ++ [last])) (value items) := by
  intro outer
  obtain ⟨final, opened, scanned, filled⟩ := fills_separated grown each [] outer
  rw [List.foldl_cons, opens, List.foldl_append, scanned, List.foldl_cons,
    closes opened final _ outer filled]
  rfl

theorem reads_array {texts : List String} {values : List Value}
    (each : List.Forall₂ (fun text value => Reads text.toList value) texts values) :
    Reads (array texts).toList (.array values) := by
  have whole : (array texts).toList =
      '[' :: ([',', ' '].intercalate (texts.map String.toList) ++ [']']) := by
    simp [array, Json.separated, String.toList_intercalate]
  rw [whole]
  refine reads_bracketed Opened.array Value.array (fun _ => rfl) ?_
    (List.forall₂_map_left_iff.mpr ?_)
  · intro opened final items outer filled
    change Scan.closed _ = _
    rw [Scan.closed, filled]
  · exact each.imp fun text value reads done => reads.fills _ _ fun _ => rfl

theorem reads_array_map {α : Type} {text : α → String} {value : α → Value}
    (each : ∀ item, Reads (text item).toList (value item)) (items : List α) :
    Reads (array (items.map text)).toList (.array (items.map value)) := by
  refine reads_array ?_
  rw [List.forall₂_map_left_iff, List.forall₂_map_right_iff, List.forall₂_same]
  exact fun item _ => each item

structure ReadsMember (member : String × String) (entry : List Char × Value) : Prop where
  key : member.1.toList = entry.1
  bare : '"' ∉ entry.1
  value : Reads member.2.toList entry.2

def memberText (member : String × String) : String := "\"" ++ member.1 ++ "\": " ++ member.2

theorem ReadsMember.fills {member : String × String} {entry : List Char × Value}
    (reads : ReadsMember member entry) (done : List (List Char × Value)) :
    Fills (memberText member).toList (.object done []) (.object (done ++ [entry]) []) := by
  intro outer
  have whole : (memberText member).toList =
      '"' :: (entry.1 ++ ['"'] ++ ([':', ' '] ++ member.2.toList)) := by
    simp [memberText, reads.key]
  have opening : Scan.step ⟨.object done [] :: outer, none, none⟩ '"' =
      ⟨.object done [] :: outer, none, some []⟩ := rfl
  have naming : [':', ' '].foldl Scan.step
      ⟨.object done [] :: outer, some (.string ([] ++ entry.1)), none⟩ =
      ⟨.object done entry.1 :: outer, none, none⟩ := rfl
  refine ⟨some entry.2, .object done entry.1 :: outer, ?_, rfl⟩
  rw [whole, List.foldl_cons, opening, List.foldl_append, foldl_quoted _ _ reads.bare,
    List.foldl_append, naming, reads.value]

theorem reads_object {members : List (String × String)} {entries : List (List Char × Value)}
    (each : List.Forall₂ ReadsMember members entries) :
    Reads (object members).toList (.object entries) := by
  have whole : (object members).toList =
      '\x7b' :: ([',', ' '].intercalate (members.map fun member => (memberText member).toList) ++
        ['\x7d']) := by
    simp [object, Json.separated, String.toList_intercalate, memberText, Function.comp_def]
  rw [whole]
  refine reads_bracketed (Opened.object · []) Value.object (fun _ => rfl) ?_
    (List.forall₂_map_left_iff.mpr ?_)
  · intro opened final items outer filled
    change Scan.closed _ = _
    rw [Scan.closed, filled]
  · exact each.imp fun member entry reads done => reads.fills done

theorem isPlain_of_isDigit {char : Char} (digit : Text.isDigit char = true) :
    isPlain char = true := by
  have table : ∀ start ∈ Text.zeroDigits,
      ['"', '[', ']', '\x7b', '\x7d', ',', ':', ' '].all fun mark =>
        mark.toNat < start || start + 10 ≤ mark.toNat := by decide
  obtain ⟨start, listed, least, most⟩ := Text.isDigit_iff.mp digit
  have apart := List.all_eq_true.mp (table start listed)
  rw [isPlain, Bool.not_eq_true', List.contains_eq_any_beq, List.any_eq_false]
  intro mark member same
  have outside := apart mark member
  rw [beq_iff_eq] at same
  subst same
  simp only [Bool.or_eq_true, decide_eq_true_eq] at outside
  omega

theorem reads_literal (literal : Literal) : Reads literal.text (.word literal.text) := by
  have marks : Literal.marks.all isPlain = true := by decide
  refine reads_word ?_ fun char member => ?_
  · intro none
    have read := Numeral.whole?_text literal
    rw [none] at read
    contradiction
  · rcases Literal.isDigit_or_mark member with digit | mark
    · exact isPlain_of_isDigit digit
    · exact List.all_eq_true.mp marks char mark

theorem reads_of_all {word : List Char} (plain : (word ≠ [] && word.all isPlain) = true) :
    Reads word (.word word) := by
  rw [Bool.and_eq_true, decide_eq_true_eq] at plain
  exact reads_word plain.1 (List.all_eq_true.mp plain.2)

theorem reads_shortestText (number : Double) :
    Reads number.shortestText.toList (.word number.shortestText.toList) := by
  cases number with
  | nan => exact reads_of_all (by decide)
  | infinite negative => cases negative <;> exact reads_of_all (by decide)
  | finite negative steps exact =>
      obtain ⟨literal, text, -⟩ := Binary.exists_literal_shortestText (by decide) (by decide)
        (by decide) negative exact
      rw [text]
      exact reads_literal literal

theorem exists_literal_toString (count : Nat) :
    ∃ literal : Literal, (toString count).toList = literal.text ∧
      literal.numeral = .decimal ⟨false, count, 0⟩ := by
  obtain ⟨digits, filled, text, whole⟩ := Digits.exists_of_toDigits count
  refine ⟨.decimal .absent (.whole digits filled) none, ?_, ?_⟩
  · rw [Nat.toString_eq_repr, Nat.toList_repr, ← text]
    simp [Literal.text, Sign.text, Mantissa.text]
  · rw [Literal.numeral, Mantissa.values, Digits.ofDigits_values, whole]
    rfl

namespace Value

def member? (key : String) : Value → Option Value
  | object members => members.lookup key.toList
  | _ => none

def items? : Value → Option (List Value)
  | array items => some items
  | _ => none

def flag? : Value → Option Bool
  | word text => [("true".toList, true), ("false".toList, false)].lookup text
  | _ => none

def count? : Value → Option Nat
  | word text =>
    match Numeral.whole? text with
    | some (.decimal ⟨false, digits, 0⟩) => some digits
    | _ => none
  | _ => none

/-- A number, or null. -/
def number? : Value → Option (Option Double)
  | word text =>
    if text = "null".toList then some none
    else (Numeral.whole? text).map fun numeral => some numeral.value
  | _ => none

def coordinates? (value : Value) : Option CoordinateLists := do
  let extruded ← (← (← value.member? "extruded").items?).mapM number?
  let support ← (← (← value.member? "support").items?).mapM number?
  let travel ← (← (← value.member? "travel").items?).mapM number?
  return ⟨extruded, support, travel⟩

def layer? (value : Value) : Option LayerRecord := do
  return ⟨← (← value.member? "z").number?, ← value.coordinates?⟩

def record? (value : Value) : Option Record := do
  let count ← (← value.member? "layer_count").count?
  if ← (← value.member? "split_layer").flag? then
    let layers ← (← (← value.member? "layers").items?).mapM layer?
    if layers.length = count then some (.split layers) else none
  else return .flat count (← value.coordinates?)

end Value

theorem reads_toString (count : Nat) :
    Reads (toString count).toList (.word (toString count).toList) := by
  obtain ⟨literal, text, -⟩ := exists_literal_toString count
  exact text ▸ reads_literal literal

theorem count?_toString (count : Nat) :
    (Value.word (toString count).toList).count? = some count := by
  obtain ⟨literal, text, numeral⟩ := exists_literal_toString count
  simp only [text, Value.count?, Numeral.whole?_text, numeral]

theorem reads_number (entry : Option Double) :
    Reads (number entry).toList (.word (number entry).toList) := by
  cases entry with
  | some number => exact reads_shortestText number
  | none => exact reads_of_all (by decide)

theorem number?_number (entry : Option Double) :
    (Value.word (number entry).toList).number? = some entry := by
  cases entry with
  | none => rfl
  | some value =>
      have back := Binary.whole?_shortestText (by decide) (by decide) (by decide) value
      obtain ⟨numeral, read, same⟩ := Option.map_eq_some_iff.mp back
      have other : value.shortestText.toList ≠ "null".toList := by
        intro null
        rw [null, show Numeral.whole? "null".toList = none by decide] at read
        contradiction
      rw [number, Value.number?, if_neg other, read, Option.map_some, same]

theorem mapM_map_eq_some {α β : Type} {read : β → Option α} {written : α → β}
    (inverse : ∀ item, read (written item) = some item) (items : List α) :
    (items.map written).mapM read = some items := by
  induction items with
  | nil => rfl
  | cons item rest ih => simp [List.mapM_cons, inverse, ih]

end Json

open Json

namespace CoordinateLists

def listValue (lists : CoordinateLists) (kind : Kind) : Value :=
  .array ((lists.get kind).map fun entry => .word (number entry).toList)

def values (lists : CoordinateLists) : List (List Char × Value) :=
  [("extruded".toList, lists.listValue .extruded), ("support".toList, lists.listValue .support),
    ("travel".toList, lists.listValue .travel)]

theorem reads_members (lists : CoordinateLists) :
    List.Forall₂ ReadsMember lists.members lists.values := by
  have list (kind : Kind) := reads_array_map reads_number (lists.get kind)
  refine .cons ⟨rfl, ?_, list _⟩ (.cons ⟨rfl, ?_, list _⟩ (.cons ⟨rfl, ?_, list _⟩ .nil)) <;> simp

theorem coordinates?_of_members (lists : CoordinateLists) (value : Value)
    (extruded : value.member? "extruded" = some (lists.listValue .extruded))
    (support : value.member? "support" = some (lists.listValue .support))
    (travel : value.member? "travel" = some (lists.listValue .travel)) :
    value.coordinates? = some lists := by
  have list (kind : Kind) := mapM_map_eq_some number?_number (lists.get kind)
  simp only [Value.coordinates?, extruded, support, travel, listValue, Value.items?,
    Option.bind_eq_bind, Option.bind_some, list]
  rfl

end CoordinateLists

namespace LayerRecord

def value (record : LayerRecord) : Value :=
  .object (("z".toList, .word (number record.z).toList) :: record.coordinates.values)

theorem reads_text (record : LayerRecord) : Reads record.text.toList record.value :=
  reads_object (.cons ⟨rfl, by simp, reads_number record.z⟩ record.coordinates.reads_members)

theorem layer?_value (record : LayerRecord) : record.value.layer? = some record := by
  have height : record.value.member? "z" = some (.word (number record.z).toList) := rfl
  have coordinates := record.coordinates.coordinates?_of_members record.value rfl rfl rfl
  simp only [Value.layer?, height, coordinates, Option.bind_eq_bind, Option.bind_some,
    number?_number]
  rfl

end LayerRecord

namespace Record

def value : Record → Value
  | split layers => .object
    [("split_layer".toList, .word "true".toList),
      ("layer_count".toList, .word (toString layers.length).toList),
      ("layers".toList, .array (layers.map LayerRecord.value))]
  | flat layerCount coordinates => .object (("split_layer".toList, .word "false".toList) ::
      ("layer_count".toList, .word (toString layerCount).toList) :: coordinates.values)

theorem reads_text (record : Record) : Reads record.text.toList record.value := by
  cases record with
  | split layers =>
      exact reads_object (.cons ⟨rfl, by simp, reads_of_all (by decide)⟩
        (.cons ⟨rfl, by simp, reads_toString _⟩
          (.cons ⟨rfl, by simp, reads_array_map LayerRecord.reads_text layers⟩ .nil)))
  | flat layerCount coordinates =>
      exact reads_object (.cons ⟨rfl, by simp, reads_of_all (by decide)⟩
        (.cons ⟨rfl, by simp, reads_toString _⟩ coordinates.reads_members))

theorem record?_value (record : Record) : record.value.record? = some record := by
  cases record with
  | split layers =>
      have listed := mapM_map_eq_some LayerRecord.layer?_value layers
      have count : (split layers).value.member? "layer_count" =
        some (.word (toString layers.length).toList) := rfl
      have flag : (split layers).value.member? "split_layer" = some (.word "true".toList) := rfl
      have items : (split layers).value.member? "layers" =
        some (.array (layers.map LayerRecord.value)) := rfl
      have chosen : (Value.word "true".toList).flag? = some true := rfl
      simp only [Value.record?, count, flag, items, chosen, count?_toString, Value.items?, listed,
        Option.bind_eq_bind, Option.bind_some, if_true]
  | flat layerCount coordinates =>
      have count : (flat layerCount coordinates).value.member? "layer_count" =
        some (.word (toString layerCount).toList) := rfl
      have flag : (flat layerCount coordinates).value.member? "split_layer" =
        some (.word "false".toList) := rfl
      have chosen : (Value.word "false".toList).flag? = some false := rfl
      have read := coordinates.coordinates?_of_members (flat layerCount coordinates).value
        rfl rfl rfl
      simp only [Value.record?, count, flag, chosen, count?_toString, read, Option.bind_eq_bind,
        Option.bind_some]
      rfl

/-- A record can be read back from its text. -/
theorem record?_text (record : Record) :
    (read? record.text.toList).bind Value.record? = some record := by
  rw [record.reads_text.read?, Option.bind_some, record.record?_value]

end Record

end Toolpath
