import Mathlib.Data.List.Induction
import Toolpath.Command
import Toolpath.Proofs.Words

/-! The parameters of a line, read off its words at once (`Params.ofWords_eq`): one for each key,
with the text of the last word under it. -/

namespace Toolpath

open Text

theorem eraseDups_concat (keys : List String) (key : String) :
    (keys ++ [key]).eraseDups =
      if key ∈ keys then keys.eraseDups else keys.eraseDups ++ [key] := by
  rw [List.eraseDups_append, List.cons_removeAll, List.nil_removeAll]
  by_cases present : key ∈ keys
  · simp [present]
  · simp [present, List.eraseDups_cons]

theorem nodup_eraseDups (keys : List String) : keys.eraseDups.Nodup := by
  induction keys using List.reverseRecOn with
  | nil => exact List.nodup_nil
  | append_singleton before key ih =>
      rw [eraseDups_concat]
      split
      · exact ih
      · rename_i absent
        refine List.nodup_append.mpr ⟨ih, by simp, ?_⟩
        intro other member last single
        rw [List.mem_singleton] at single
        rintro rfl
        exact absent (List.mem_eraseDups.mp (single ▸ member))

namespace Params

def key? (word : List Char) : Option String :=
  word.head?.map fun letter => String.ofList (lower [letter])

def keys (words : List (List Char)) : List String := (words.filterMap key?).eraseDups

/-- The text of the last word under a key. -/
def lastText (words : List (List Char)) (key : String) : List Char :=
  ((words.filter (key? · = some key)).getLast?.getD []).tail

theorem put_of_not_mem (key : String) (param : Param) (params : Params)
    (absent : key ∉ params.map Prod.fst) : params.put key param = params ++ [(key, param)] := by
  induction params with
  | nil => rfl
  | cons entry rest ih =>
      obtain ⟨other, old⟩ := entry
      rw [List.map_cons, List.mem_cons, not_or] at absent
      rw [put, if_neg fun same => absent.1 same.symm, ih absent.2, List.cons_append]

theorem put_of_mem (key : String) (param : Param) (value : String → Param) (keys : List String)
    (distinct : keys.Nodup) (present : key ∈ keys) :
    Params.put key param (keys.map fun other => (other, value other)) =
      keys.map fun other => (other, if other = key then param else value other) := by
  induction keys with
  | nil => simp at present
  | cons first rest ih =>
      rw [List.nodup_cons] at distinct
      rw [List.map_cons, List.map_cons, put]
      by_cases same : first = key
      · subst first
        rw [if_pos rfl, if_pos rfl]
        congr 1
        apply List.map_congr_left
        intro other member
        have later : other ≠ key := fun same => distinct.1 (same ▸ member)
        rw [if_neg later]
      · have later : key ∈ rest := (List.mem_cons.mp present).resolve_left fun eq => same eq.symm
        rw [if_neg same, if_neg same, ih distinct.2 later]

theorem keys_concat (words : List (List Char)) (letter : Char) (text : List Char) :
    keys (words ++ [letter :: text]) =
      let key := String.ofList (lower [letter])
      if key ∈ keys words then keys words else keys words ++ [key] := by
  simp only [keys, List.filterMap_append, List.filterMap_cons, List.filterMap_nil, key?,
    List.head?_cons, Option.map_some, eraseDups_concat, List.mem_eraseDups]

theorem lastText_concat (words : List (List Char)) (letter : Char) (text : List Char)
    (key : String) :
    lastText (words ++ [letter :: text]) key =
      if key = String.ofList (lower [letter]) then text else lastText words key := by
  by_cases same : key = String.ofList (lower [letter])
  · simp [lastText, key?, same]
  · have other : ¬String.ofList (lower [letter]) = key := fun eq => same eq.symm
    simp [lastText, key?, same, other]

theorem ofWords_concat (words : List (List Char)) (word : List Char) :
    ofWords (words ++ [word]) = (ofWords words).putWord word := by
  simp [ofWords]

theorem ofWords_eq (words : List (List Char)) :
    ofWords words = (keys words).map fun key => (key, Param.parse (lastText words key)) := by
  induction words using List.reverseRecOn with
  | nil => rfl
  | append_singleton before word ih =>
      rw [ofWords_concat, ih]
      cases word with
      | nil =>
          have unkeyed : key? [] = none := rfl
          simp [putWord, keys, lastText, unkeyed]
      | cons letter text =>
          rw [putWord, keys_concat]
          simp only [lastText_concat]
          by_cases present : String.ofList (lower [letter]) ∈ keys before
          · have distinct : (keys before).Nodup := nodup_eraseDups _
            rw [if_pos present, put_of_mem _ _ _ _ distinct present]
            apply List.map_congr_left
            intro key _
            split <;> rfl
          · rw [if_neg present, put_of_not_mem _ _ _ (by simpa using present), List.map_append]
            congr 1
            · apply List.map_congr_left
              intro key member
              have other : key ≠ String.ofList (lower [letter]) :=
                fun same => present (same ▸ member)
              rw [if_neg other]
            · simp

theorem lookup_put (key other : String) (param : Param) (params : Params) :
    (params.put key param).lookup other =
      if other = key then some param else params.lookup other := by
  induction params with
  | nil => by_cases same : other = key <;> simp [put, same]
  | cons entry rest ih =>
      obtain ⟨first, old⟩ := entry
      by_cases found : first = key
      · subst first
        by_cases same : other = key
        · simp [put, same]
        · have apart : (other == key) = false := by simpa using same
          simp [put, List.lookup_cons, same, apart]
      · rw [put, if_neg found, List.lookup_cons, List.lookup_cons, ih]
        by_cases same : other = key
        · subst same
          have apart : (other == first) = false := by simpa using fun eq => found eq.symm
          simp [apart]
        · simp [same]

theorem lookup_ofWords (words : List (List Char)) (key : String) :
    (ofWords words).lookup key =
      (words.filter (key? · = some key)).getLast?.map fun word => Param.parse word.tail := by
  induction words using List.reverseRecOn with
  | nil => rfl
  | append_singleton before word ih =>
      rw [ofWords_concat]
      cases word with
      | nil =>
          have unkeyed : key? [] = none := rfl
          simp [putWord, ih, unkeyed]
      | cons letter text =>
          rw [putWord, lookup_put, ih]
          by_cases same : key = String.ofList (lower [letter])
          · simp [key?, same]
          · have other : ¬String.ofList (lower [letter]) = key := fun eq => same eq.symm
            simp [key?, same, other]

end Params

namespace Command

theorem ofLine_of_nil {line : List Char} (number : Int) (found : words (withoutComment line) = []) :
    ofLine line number = ⟨"", [], toolMarker? (withoutComment line), number⟩ := by
  simp only [ofLine, found]

theorem ofLine_of_cons {line code : List Char} {rest : List (List Char)} (number : Int)
    (found : words (withoutComment line) = code :: rest) :
    ofLine line number = ⟨String.ofList (upper code), Params.ofWords rest,
      toolMarker? (withoutComment line), number⟩ := by
  simp only [ofLine, found]

theorem isNoop_ofLine_iff (line : List Char) (number : Int) :
    (ofLine line number).isNoop = true ↔ words (withoutComment line) = [] := by
  cases found : words (withoutComment line) with
  | nil => simp [ofLine_of_nil number found, isNoop]
  | cons code rest =>
      have filled : code ≠ [] := ne_nil_of_mem_words (found ▸ List.mem_cons_self)
      simpa [ofLine_of_cons number found, isNoop] using upper_ne_nil filled

end Command

end Toolpath
