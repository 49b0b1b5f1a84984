/-
**Every pull is paid for in bytes.**

A pull goes in one of three ways: nothing is left, or no value stands in front, or one does and is
looked at as what is wanted. Only the first takes no byte, and only the last is counted. So a loop
of pulls that goes on after every other failure comes to the end of the frame, whatever it wants:

* `goes_pull`: the three ways, each with what it takes and what it counts;
* `Want.refusal_of_look`: a look refuses a value for its kind or its content, and for nothing else;
* `accounts_pullEach`: what a row of pulls takes and counts;
* `exists_exhausted`: a loop meets the end after at most as many pulls as there are bytes;
* `pulls_paid`: the account of one pull and that of a loop of pulls.
-/

import SharedWeights.Proofs.Frame.Fields

namespace SharedWeights

open MessagePack (Spells Malformation)

/-- An error about a value that was read: it is of another kind, or its content is wrong. -/
inductive DecodeError.IsRefusal : DecodeError → Prop
  | kind (field expected got : String) : IsRefusal (.unexpectedType field expected got)
  | content (field : String) (fault : FieldFault) : IsRefusal (.invalidField field fault)

namespace Cursor

/-! ### What is wanted -/

/-- What the next value is wanted as: just as it is, or for a field as something of its own. -/
inductive Want where
  | value
  | str (field : String)
  | text (field : String)
  | int (field : String)
  | bin (field : String)
  | floats (field : String)
deriving DecidableEq

namespace Want

/-- What is given if the value is that. -/
def Given : Want → Type
  | value => Value
  | str _ | text _ => String
  | int _ => Int64
  | bin _ => Bytes
  | floats _ => List Binary32

/-- How a value is looked at. -/
def look : (want : Want) → Value → Except DecodeError want.Given
  | value => .ok
  | str field => Value.asStr field
  | text field => Value.asText field
  | int field => Value.asInt field
  | bin field => Value.asBin field
  | floats field => Value.asFloats field

/-- **A look refuses a value for its kind or its content**, and for nothing else. -/
theorem refusal_of_look {want : Want} {value : Value} {reason : DecodeError}
    (refused : want.look value = .error reason) : reason.IsRefusal := by
  cases want with
  | value => cases refused
  | str field | int field | bin field =>
    cases value <;> cases refused <;> exact .kind _ _ _
  | text field =>
    cases value with
    | bin blob =>
      cases decoded : Text.Utf8.decode blob with
      | ok text =>
        rw [look, Value.asText, decoded] at refused
        cases refused
      | error fault =>
        rw [look, Value.asText, decoded] at refused
        cases refused
        exact .content _ _
    | nil | bool | int | float32 | float64 | str => cases refused <;> exact .kind _ _ _
  | floats field =>
    cases value with
    | bin blob =>
      cases read : Binary32.ofBlob? blob with
      | some numbers =>
        simp only [look, Value.asFloats, Value.asBin, Except.bind, read, reduceCtorEq] at refused
      | none =>
        simp only [look, Value.asFloats, Value.asBin, Except.bind, read] at refused
        cases refused
        exact .content _ _
    | nil | bool | int | float32 | float64 | str => cases refused; exact .kind _ _ _

end Want

/-- What is wanted as it is, is the next value. -/
theorem pull_value (cursor : Cursor) : cursor.pull Want.value.look = cursor.next := by
  rcases given : cursor.next with ⟨reason | value, moved⟩ <;> rw [pull, given] <;> rfl

/-! ### How a pull goes -/

/-- The ways in which a pull can go, with what it gives and where it leads. -/
inductive Goes (want : Want) (cursor : Cursor) : Except DecodeError want.Given → Cursor → Prop
  | exhausted (nothing : cursor.rest = []) :
    Goes want cursor (.error (.exhausted cursor.index)) cursor
  | malformed {malformation : Malformation} {taken left : Bytes} (nonempty : taken ≠ [])
      (stood : cursor.rest = taken ++ left)
      (unread : cursor.next.1 = .error (.malformed cursor.index malformation)) :
    Goes want cursor (.error (.malformed cursor.index malformation)) ⟨left, cursor.index⟩
  | read {value : Value} {object left : Bytes} (spells : Spells value object)
      (stood : cursor.rest = object ++ left) :
    Goes want cursor (want.look value) ⟨left, cursor.index + 1⟩

/-- Before the end every read takes at least one byte, whatever it makes of it. -/
theorem exists_taken {cursor : Cursor} (something : cursor.rest ≠ []) :
    ∃ taken, taken ≠ [] ∧ cursor.rest = taken ++ cursor.next.2.rest := by
  obtain ⟨taken, stood⟩ := next_rest something ▸ MessagePack.read_left_suffix cursor.rest
  refine ⟨taken, ?_, stood.symm⟩
  rintro rfl
  have fewer := length_next_rest_lt something
  rw [← stood] at fewer
  exact Nat.lt_irrefl _ fewer

/-- **A pull goes in one of three ways.** -/
theorem goes_pull (want : Want) (cursor : Cursor) :
    Goes want cursor (cursor.pull want.look).1 (cursor.pull want.look).2 := by
  unfold pull
  by_cases nothing : cursor.rest = []
  · rw [next_of_empty nothing]
    exact .exhausted nothing
  · obtain ⟨taken, nonempty, stood⟩ := exists_taken nothing
    rcases read : MessagePack.read cursor.rest with ⟨malformation | value, left⟩
    · have given : cursor.next = (.error (.malformed cursor.index malformation),
          ⟨left, cursor.index⟩) := by rw [next, if_neg nothing, read]
      rw [given] at stood ⊢
      exact .malformed nonempty stood (congrArg Prod.fst given)
    · have given : cursor.next = (.ok value, ⟨left, cursor.index + 1⟩) := by
        rw [next, if_neg nothing, read]
      obtain ⟨object, spells, stood⟩ := MessagePack.spells_of_read read
      rw [given]
      exact .read spells stood

section Goes

variable {want : Want} {cursor moved : Cursor} {given : Except DecodeError want.Given}

theorem Goes.taken (goes : Goes want cursor given moved) (something : cursor.rest ≠ []) :
    ∃ taken, taken ≠ [] ∧ cursor.rest = taken ++ moved.rest := by
  cases goes with
  | exhausted nothing => exact absurd nothing something
  | malformed nonempty stood => exact ⟨_, nonempty, stood⟩
  | read spells stood => exact ⟨_, spells.ne_nil, stood⟩

/-- What is given tells whether an object of a value stood in front. -/
theorem Goes.object_or_malformed (goes : Goes want cursor given moved)
    (something : cursor.rest ≠ []) :
    (∃ value object, Spells value object ∧ cursor.rest = object ++ moved.rest ∧
      moved.index = cursor.index + 1 ∧ given = want.look value ∧
      ∀ reason, given = .error reason → reason.IsRefusal) ∨
    (∀ value object, Spells value object → ¬ object <+: cursor.rest) ∧
      moved.index = cursor.index ∧
      ∃ malformation, given = .error (.malformed cursor.index malformation) := by
  cases goes with
  | exhausted nothing => exact absurd nothing something
  | malformed nonempty stood unread =>
    -- an object in front would have been read
    refine .inr ⟨?_, rfl, _, rfl⟩
    rintro value object spells ⟨left, front⟩
    have read := next_of_spells spells left cursor.index
    rw [front] at read
    rw [read] at unread
    cases unread
  | read spells stood =>
    exact .inl ⟨_, _, spells, stood, rfl, rfl, fun _ => Want.refusal_of_look⟩

/-- The count stays where it is exactly if no value stood in front. -/
theorem Goes.index_eq_iff (goes : Goes want cursor given moved) (something : cursor.rest ≠ []) :
    moved.index = cursor.index ↔
      ∃ malformation, given = .error (.malformed cursor.index malformation) := by
  rcases goes.object_or_malformed something with
    ⟨value, object, -, -, counted, -, refusal⟩ | ⟨-, kept, malformation, unread⟩
  · refine ⟨fun same => absurd (counted.symm.trans same) (Nat.succ_ne_self _), ?_⟩
    rintro ⟨malformation, unread⟩
    cases refusal _ unread
  · exact ⟨fun _ => ⟨malformation, unread⟩, fun _ => kept⟩

end Goes

/-! ### Rows of pulls -/

/-- What was wanted of a pull, and what it gave. -/
structure Report where
  want : Want
  outcome : Except DecodeError want.Given

namespace Report

/-- Whether nothing was left. -/
def isExhausted (report : Report) : Bool :=
  match report.outcome with
  | .error (.exhausted _) => true
  | _ => false

/-- Whether a value was read, which may have been refused. -/
def isCounted (report : Report) : Bool :=
  match report.outcome with
  | .error (.exhausted _) | .error (.malformed _ _) => false
  | _ => true

theorem isExhausted_of_isCounted {report : Report} (counted : report.isCounted = true) :
    report.isExhausted = false := by
  obtain ⟨want, outcome⟩ := report
  cases outcome with
  | ok given => rfl
  | error reason =>
    cases reason with
    | exhausted => cases counted
    | malformed | unexpectedType | invalidField | trailingValues => rfl

theorem isCounted_look (want : Want) (value : Value) :
    isCounted ⟨want, want.look value⟩ = true := by
  unfold isCounted
  cases looked : want.look value with
  | ok given => rfl
  | error reason => cases Want.refusal_of_look looked <;> rfl

end Report

/-- Where something is left, a pull finds it. -/
theorem Goes.isExhausted {want : Want} {cursor moved : Cursor}
    {given : Except DecodeError want.Given} (goes : Goes want cursor given moved)
    (something : cursor.rest ≠ []) : Report.isExhausted ⟨want, given⟩ = false := by
  cases goes with
  | exhausted nothing => exact absurd nothing something
  | malformed => rfl
  | @read value => exact Report.isExhausted_of_isCounted (Report.isCounted_look want value)

/-- A loop of pulls: what it was given so far settles what it wants next. -/
abbrev Loop := List Report → Want

/-- The loop as it goes on after its first pull. -/
def Loop.behind (loop : Loop) (first : Report) : Loop :=
  fun reports => loop (first :: reports)

/-- What the first `count` pulls of a loop give, going on after failures, and where they lead. -/
def pullEach : Nat → Loop → Cursor → List Report × Cursor
  | 0, _, cursor => ([], cursor)
  | count + 1, loop, cursor =>
    let pulled := cursor.pull (loop []).look
    let first : Report := ⟨loop [], pulled.1⟩
    let later := pullEach count (loop.behind first) pulled.2
    (first :: later.1, later.2)

/-- The account of a row of pulls from one place to another: every value that was read is counted,
and there are bytes for every pull that found something. -/
structure Accounts (start : Cursor) (reports : List Report) (standing : Cursor) : Prop where
  counted : standing.index = start.index + reports.countP Report.isCounted
  paid : ∃ taken, start.rest = taken ++ standing.rest ∧
    reports.countP (fun report => !report.isExhausted) ≤ taken.length

theorem accounts_nil (cursor : Cursor) : Accounts cursor [] cursor :=
  ⟨rfl, [], rfl, Nat.le_refl 0⟩

/-- **Every pull has its account.** -/
theorem Goes.accounts {want : Want} {cursor moved : Cursor} {given : Except DecodeError want.Given}
    (goes : Goes want cursor given moved) : Accounts cursor [⟨want, given⟩] moved := by
  cases goes with
  | exhausted nothing => exact ⟨rfl, [], rfl, Nat.le_refl 0⟩
  | malformed nonempty stood => exact ⟨rfl, _, stood, List.length_pos_iff.2 nonempty⟩
  | @read value object left spells stood =>
    have read := Report.isCounted_look want value
    refine ⟨?_, object, stood, ?_⟩
    · rw [List.countP_cons_of_pos read, List.countP_nil]
    · exact Nat.le_trans List.countP_le_length (List.length_pos_iff.2 spells.ne_nil)

/-- **Accounts add up.** -/
theorem Accounts.append {start middle standing : Cursor} {earlier later : List Report}
    (before : Accounts start earlier middle) (behind : Accounts middle later standing) :
    Accounts start (earlier ++ later) standing := by
  obtain ⟨counted, taken, stood, enough⟩ := before
  obtain ⟨countedLater, takenLater, stoodLater, enoughLater⟩ := behind
  refine ⟨?_, taken ++ takenLater, ?_, ?_⟩
  · rw [countedLater, counted, List.countP_append, Nat.add_assoc]
  · rw [stood, stoodLater, List.append_assoc]
  · rw [List.countP_append, List.length_append]
    exact Nat.add_le_add enough enoughLater

/-- **Every row of pulls has its account.** -/
theorem accounts_pullEach (count : Nat) (loop : Loop) (cursor : Cursor) :
    Accounts cursor (pullEach count loop cursor).1 (pullEach count loop cursor).2 := by
  induction count generalizing loop cursor with
  | zero => exact accounts_nil cursor
  | succ count ih => exact (goes_pull (loop []) cursor).accounts.append (ih _ _)

/-- No more is counted than is paid for. -/
theorem Accounts.index_le {start standing : Cursor} {reports : List Report}
    (accounts : Accounts start reports standing) :
    ∃ taken, start.rest = taken ++ standing.rest ∧
      standing.index ≤ start.index + taken.length := by
  obtain ⟨counted, taken, stood, enough⟩ := accounts
  refine ⟨taken, stood, ?_⟩
  have fewer : reports.countP Report.isCounted ≤
      reports.countP (fun report => !report.isExhausted) := by
    refine List.countP_mono_left fun report _ counted => ?_
    rw [Report.isExhausted_of_isCounted counted]
    rfl
  omega

/-- A loop of pulls stands where as many pulls of any values would lead. -/
theorem pullEach_moves_as_nextEach (count : Nat) (loop : Loop) (cursor : Cursor) :
    (pullEach count loop cursor).2 = (cursor.nextEach count).2 := by
  induction count generalizing loop cursor with
  | zero => rfl
  | succ count ih => exact ih _ _

/-- **A loop meets the end**, after the same number of pulls whatever it wants, and that is at most
the number of bytes. -/
theorem exists_exhausted (cursor : Cursor) :
    ∃ count ≤ cursor.rest.length, ∀ loop : Loop, ∃ last : Report,
      (∀ report ∈ (pullEach count loop cursor).1, report.isExhausted = false) ∧
      last.outcome = .error (.exhausted (pullEach count loop cursor).2.index) ∧
      pullEach (count + 1) loop cursor =
        ((pullEach count loop cursor).1 ++ [last], (pullEach count loop cursor).2) := by
  induction size : cursor.rest.length using Nat.strongRecOn generalizing cursor with
  | _ size ih =>
  subst size
  by_cases nothing : cursor.rest = []
  · refine ⟨0, Nat.zero_le _, fun loop => ?_⟩
    have pulled : cursor.pull (loop []).look = (.error (.exhausted cursor.index), cursor) := by
      rw [pull, next_of_empty nothing]
      rfl
    refine ⟨⟨loop [], .error (.exhausted cursor.index)⟩,
      fun _ member => absurd member List.not_mem_nil, rfl, ?_⟩
    simp only [pullEach, pulled, List.nil_append]
  · -- every loop stands at the same place after its first pull, and goes on from there
    have fewer := length_next_rest_lt nothing
    obtain ⟨count, few, meets⟩ := ih _ fewer cursor.next.2 rfl
    refine ⟨count + 1, by omega, fun loop => ?_⟩
    let first : Report := ⟨loop [], (cursor.pull (loop []).look).1⟩
    have found : first.isExhausted = false := (goes_pull (loop []) cursor).isExhausted nothing
    obtain ⟨last, others, ended, again⟩ := meets (loop.behind first)
    refine ⟨last, List.forall_mem_cons.2 ⟨found, others⟩, ended, ?_⟩
    show (first :: (pullEach (count + 1) (loop.behind first) cursor.next.2).1,
      (pullEach (count + 1) (loop.behind first) cursor.next.2).2) = _
    rw [again]
    rfl

/-- **Every pull is paid for in bytes**, whatever is wanted, and moves as reading any value does. At
the end it says so and changes nothing. Before the end it takes at least one byte. Either an object
of a value stands in front: then that is taken and counted, and its value is given or refused, for
its kind or its content. Or none does: then the pull says so with the count, which stays. Hence a
loop that goes on after every other failure meets the end, after no more pulls than there are bytes,
and at no time has it counted more values than it has taken bytes. -/
theorem pulls_paid (cursor : Cursor) :
    cursor.pull Want.value.look = cursor.next ∧
    (∀ want : Want,
      let given := (cursor.pull want.look).1
      let moved := (cursor.pull want.look).2
      moved = cursor.next.2 ∧
      (cursor.rest = [] → given = .error (.exhausted cursor.index) ∧ moved = cursor) ∧
      (cursor.rest ≠ [] →
        (∃ taken, taken ≠ [] ∧ cursor.rest = taken ++ moved.rest) ∧
        (moved.index = cursor.index + 1 ↔ ∃ value, cursor.next.1 = .ok value) ∧
        (moved.index = cursor.index ↔
          ∃ malformation, given = .error (.malformed cursor.index malformation)) ∧
        ((∃ value object, Spells value object ∧ cursor.rest = object ++ moved.rest ∧
            moved.index = cursor.index + 1 ∧ given = want.look value ∧
            ∀ reason, given = .error reason → reason.IsRefusal) ∨
          (∀ value object, Spells value object → ¬ object <+: cursor.rest) ∧
            moved.index = cursor.index ∧
            ∃ malformation, given = .error (.malformed cursor.index malformation)))) ∧
    (∃ count ≤ cursor.rest.length, ∀ loop : Loop, ∃ last : Report,
      (∀ report ∈ (pullEach count loop cursor).1, report.isExhausted = false) ∧
      last.outcome = .error (.exhausted (pullEach count loop cursor).2.index) ∧
      pullEach (count + 1) loop cursor =
        ((pullEach count loop cursor).1 ++ [last], (pullEach count loop cursor).2)) ∧
    ∀ (count : Nat) (loop : Loop), ∃ taken,
      cursor.rest = taken ++ (pullEach count loop cursor).2.rest ∧
      (pullEach count loop cursor).2.index ≤ cursor.index + taken.length ∧
      (pullEach count loop cursor).2 = (cursor.nextEach count).2 := by
  refine ⟨cursor.pull_value, fun want => ?_, cursor.exists_exhausted, fun count loop => ?_⟩
  · have goes := goes_pull want cursor
    refine ⟨cursor.pull_moves_as_next _, fun nothing => ?_, fun something =>
      ⟨goes.taken something, cursor.index_next_eq_iff, goes.index_eq_iff something,
        goes.object_or_malformed something⟩⟩
    rw [pull, next_of_empty nothing]
    exact ⟨rfl, rfl⟩
  · obtain ⟨taken, stood, enough⟩ := (accounts_pullEach count loop cursor).index_le
    exact ⟨taken, stood, enough, pullEach_moves_as_nextEach count loop cursor⟩

/-- A byte that begins no object, the header of a list, a number where a text is wanted, and a text
that is cut: four pulls for five bytes, and one value that is counted. -/
theorem pulls_paid_of_faults :
    let cursor : Cursor := ofBytes [0xc1, 0x92, 0x05, 0xa3, 0x61]
    let loop : Loop := fun reports =>
      if reports.length < 3 then .text "worker_id" else .floats "gradient"
    let number : Cursor := ⟨[0x05, 0xa3, 0x61], 0⟩
    let text : Want := .text "worker_id"
    (cursor.rest ≠ [] ∧ (cursor.pull text.look).2.index = 0) ∧
    (number.rest ≠ [] ∧ (number.pull text.look).2.index = 1 ∧
      (number.pull text.look).1 = .error (.unexpectedType "worker_id" "str" "int")) ∧
    ((pullEach 4 loop cursor).2 = ⟨[], 1⟩ ∧
      ((⟨[], 1⟩ : Cursor).pull text.look).1 = .error (.exhausted 1)) ∧
    ∃ count ≤ 5, ∀ report ∈ (pullEach count loop cursor).1, report.isExhausted = false := by
  intro cursor loop number text
  have something : cursor.rest ≠ [] := List.cons_ne_nil _ _
  have more : number.rest ≠ [] := List.cons_ne_nil _ _
  obtain ⟨-, each, ⟨count, few, ends⟩, row⟩ := pulls_paid cursor
  obtain ⟨-, -, kept, -⟩ := (each text).2.2 something
  obtain ⟨-, counted, -⟩ := ((pulls_paid number).2.1 text).2.2 more
  obtain ⟨last, found, -⟩ := ends loop
  obtain ⟨-, -, -, stands⟩ := row 4 loop
  have left : (cursor.nextEach 4).2 = ⟨[], 1⟩ := rfl
  exact ⟨⟨something, kept.2 ⟨.reserved, rfl⟩⟩, ⟨more, counted.2 ⟨.int 5, rfl⟩, rfl⟩,
    ⟨stands.trans left, (((pulls_paid ⟨[], 1⟩).2.1 text).2.1 rfl).1⟩, count, few, found⟩

end Cursor

end SharedWeights
