import TapeLang.Text.Blank

/-!
The words of a text that is put together from words and blanks. Blanks are passed over, and a word runs to
the next blank or to the end; so words with something blank between any two of them are found again, in
order, whatever blanks stand before the first and behind the last.
-/

namespace TapeLang.Text

def Blank (text : String) : Prop := ∀ c ∈ text.toList, isBlank c = true

structure Word (text : String) : Prop where
  filled : text ≠ ""
  unbroken : ∀ c ∈ text.toList, isBlank c = false

-- the characters of the text are tried, and never all that there are
instance (text : String) : Decidable (Blank text) :=
  List.decidableBAll (fun c => isBlank c = true) text.toList

instance (text : String) : Decidable (Word text) :=
  haveI := List.decidableBAll (fun c => isBlank c = false) text.toList
  decidable_of_iff (text ≠ "" ∧ ∀ c ∈ text.toList, isBlank c = false)
    ⟨fun holds => ⟨holds.1, holds.2⟩, fun word => ⟨word.filled, word.unbroken⟩⟩

theorem to_list_ne_nil {text : String} (filled : text ≠ "") : text.toList ≠ [] :=
  fun empty => filled (String.toList_eq_nil_iff.mp empty)

/-- A word ends before this text: it is empty or begins with a blank. -/
def Breaks (rest : List Char) : Prop := ∀ c ∈ rest.head?, isBlank c = true

theorem split_words_blanks {blanks : List Char} (blank : ∀ c ∈ blanks, isBlank c = true)
    (rest : List Char) : splitWords (blanks ++ rest) = splitWords rest := by
  induction blanks with
  | nil => rfl
  | cons c blanks ih =>
      rw [List.cons_append, splitWords, if_pos (blank c List.mem_cons_self)]
      exact ih fun other found => blank other (List.mem_cons_of_mem c found)

theorem join_word_of_breaks (c : Char) {rest : List Char} (breaks : Breaks rest)
    (words : List (List Char)) : joinWord c rest words = [c] :: words := by
  cases rest with
  | nil => rfl
  | cons next rest =>
      cases words with
      | nil => rfl
      | cons word words => exact if_pos (breaks next rfl)

theorem split_words_word {word rest : List Char} (filled : word ≠ [])
    (unbroken : ∀ c ∈ word, isBlank c = false) (breaks : Breaks rest) :
    splitWords (word ++ rest) = word :: splitWords rest := by
  induction word with
  | nil => exact absurd rfl filled
  | cons c word ih =>
      have letter := unbroken c List.mem_cons_self
      rw [List.cons_append, splitWords, if_neg (by simp [letter])]
      cases word with
      | nil => exact join_word_of_breaks c breaks _
      | cons next word =>
          have following := unbroken next (List.mem_cons_of_mem c List.mem_cons_self)
          rw [ih (List.cons_ne_nil next word) fun other found => unbroken other (List.mem_cons_of_mem c found)]
          exact if_neg (by simp [following])

def spaced (pieces : List (String × String)) : String :=
  String.join (pieces.map fun piece => piece.1 ++ piece.2)

def Separates (pieces : List (String × String)) : Prop :=
  ∀ piece ∈ pieces, (piece.1 ≠ "" ∧ Blank piece.1) ∧ Word piece.2

variable {pieces : List (String × String)} {lead trail : String}

theorem to_list_spaced (pieces : List (String × String)) :
    (spaced pieces).toList = pieces.flatMap fun piece => piece.1.toList ++ piece.2.toList := by
  simp [spaced, String.toList_join, List.flatMap_map]

theorem Separates.breaks (separates : Separates pieces) (blank : Blank trail) :
    Breaks ((spaced pieces).toList ++ trail.toList) := by
  rw [to_list_spaced]
  intro c first
  cases pieces with
  | nil => exact blank c (List.mem_of_head? first)
  | cons piece rest =>
      obtain ⟨⟨filled, blanks⟩, -⟩ := separates piece List.mem_cons_self
      obtain ⟨next, tail, begins⟩ := List.exists_cons_of_ne_nil (to_list_ne_nil filled)
      rw [List.flatMap_cons, begins] at first
      have same : next = c := Option.some.inj first
      apply blanks c
      rw [begins, same]
      exact List.mem_cons_self

theorem Separates.split_words (separates : Separates pieces) (blank : Blank trail) :
    splitWords ((spaced pieces).toList ++ trail.toList) = pieces.map fun piece => piece.2.toList := by
  induction pieces with
  | nil =>
      have nothing := split_words_blanks blank []
      rwa [List.append_nil] at nothing
  | cons piece rest ih =>
      obtain ⟨⟨-, blanks⟩, word⟩ := separates piece List.mem_cons_self
      have later : Separates rest := fun other found => separates other (List.mem_cons_of_mem piece found)
      have parts : (spaced (piece :: rest)).toList ++ trail.toList =
          piece.1.toList ++ (piece.2.toList ++ ((spaced rest).toList ++ trail.toList)) := by
        simp [to_list_spaced, List.flatMap_cons]
      rw [parts, split_words_blanks blanks,
        split_words_word (to_list_ne_nil word.filled) word.unbroken (later.breaks blank),
        ih later]
      rfl

/-- The words of a text that begins with a word and goes on with separated ones. -/
theorem words_spaced {first : String} (word : Word first) (separates : Separates pieces)
    (blankLead : Blank lead) (blankTrail : Blank trail) :
    words (lead ++ first ++ spaced pieces ++ trail) = first :: pieces.map (·.2) := by
  have parts : (lead ++ first ++ spaced pieces ++ trail).toList =
      lead.toList ++ (first.toList ++ ((spaced pieces).toList ++ trail.toList)) := by
    simp [String.toList_append]
  unfold words
  rw [parts, split_words_blanks blankLead,
    split_words_word (to_list_ne_nil word.filled) word.unbroken
      (separates.breaks blankTrail),
    separates.split_words blankTrail]
  simp [Function.comp_def, String.ofList_toList]

end TapeLang.Text
