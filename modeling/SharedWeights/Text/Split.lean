/-
**Finding a part of a text.**

* `mentions_iff`: a part is found exactly if the text has it somewhere;
* `splitLast?_eq_some_iff`: a text is parted at the last mark in it.
-/

namespace SharedWeights.Text

/-- Whether `part` stands somewhere in a text. -/
def mentions (part : List Char) : List Char → Bool
  | [] => part.isEmpty
  | character :: rest => part.isPrefixOf (character :: rest) || mentions part rest

theorem mentions_iff {part text : List Char} : mentions part text = true ↔ part <:+: text := by
  induction text with
  | nil => simp [mentions]
  | cons character rest ih => simp [mentions, ih, List.infix_cons_iff]

/-- What stands before and behind the last `mark` of a text. -/
def splitLast? (mark : Char) (text : List Char) : Option (List Char × List Char) :=
  match text.reverse.dropWhile (· != mark) with
  | [] => none
  | _ :: front => some (front.reverse, (text.reverse.takeWhile (· != mark)).reverse)

theorem splitLast?_append {mark : Char} {front back : List Char} (last : mark ∉ back) :
    splitLast? mark (front ++ mark :: back) = some (front, back) := by
  have turned : (front ++ mark :: back).reverse = back.reverse ++ mark :: front.reverse := by simp
  have passed : ∀ character ∈ back.reverse, (character != mark) = true := by
    intro character inside
    rw [bne_iff_ne]
    rintro rfl
    exact last (List.mem_reverse.1 inside)
  rw [splitLast?, turned, List.dropWhile_append_of_pos passed, List.takeWhile_append_of_pos passed]
  simp

theorem splitLast?_eq_some_iff {mark : Char} {text front back : List Char} :
    splitLast? mark text = some (front, back) ↔ text = front ++ mark :: back ∧ mark ∉ back := by
  constructor
  · intro found
    have whole := List.takeWhile_append_dropWhile (p := (· != mark)) (l := text.reverse)
    unfold splitLast? at found
    split at found
    · cases found
    · next first rest shape =>
      cases found
      have isMark : first = mark := by
        have head := List.head?_dropWhile_not (· != mark) text.reverse
        rw [shape] at head
        simpa using head
      rw [shape, isMark] at whole
      refine ⟨?_, ?_⟩
      · have turned := congrArg List.reverse whole
        rw [List.reverse_reverse, List.reverse_append, List.reverse_cons] at turned
        rw [List.append_assoc] at turned
        exact turned.symm
      · intro inside
        have others := List.all_takeWhile (p := (· != mark)) (l := text.reverse)
        have taken := List.all_eq_true.1 others mark (List.mem_reverse.1 inside)
        simp at taken
  · rintro ⟨rfl, last⟩
    exact splitLast?_append last

end SharedWeights.Text
