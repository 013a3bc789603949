import PrismaEsdl.Prisma.Reading
import PrismaEsdl.Proofs.Document.Display

/-!
Contracts of readings.

A reading ends in one of three ways: it gives a value, it reports a fault of the document, or it
derails, because something that is not of the expected kind is used as if it were. A contract says
exactly when it gives a value, exactly when it derails, and what holds of the values it gives. The
contract of a sequence of readings follows from those of its steps (`Contract.bind`), and so does
the contract of a reading of several documents: it derails when the first document that is not
accepted does (`Contract.mapM`).
-/

namespace PrismaEsdl.Prisma

/-- Whether an error is reported as a fault of the document. -/
def ReadingError.IsReported (error : ReadingError) : Prop :=
  ∃ fault, error = .malformed fault

namespace Reading

/-- The first of some documents that is not accepted derails. -/
def FirstDerails (accepted derails : Document → Prop) (documents : List Document) : Prop :=
  ∃ before document after, documents = before ++ document :: after ∧
    (∀ earlier ∈ before, accepted earlier) ∧ derails document

theorem not_firstDerails_nil {accepted derails : Document → Prop} :
    ¬ FirstDerails accepted derails [] := by
  rintro ⟨before, document, after, parted, _⟩
  cases before <;> cases parted

theorem firstDerails_cons_iff {accepted derails : Document → Prop} {document : Document}
    {rest : List Document} :
    FirstDerails accepted derails (document :: rest) ↔
      derails document ∨ accepted document ∧ FirstDerails accepted derails rest := by
  constructor
  · rintro ⟨before, found, after, parted, earlier, here⟩
    cases before with
    | nil =>
        cases parted
        exact Or.inl here
    | cons first before =>
        cases parted
        exact Or.inr ⟨earlier _ (.head _), before, found, after, rfl,
          fun other member => earlier other (.tail _ member), here⟩
  · rintro (here | ⟨first, before, found, after, rfl, earlier, here⟩)
    · exact ⟨[], document, rest, rfl, by simp, here⟩
    · refine ⟨document :: before, found, after, rfl, ?_, here⟩
      intro other member
      rcases List.mem_cons.mp member with rfl | later
      · exact first
      · exact earlier other later

/-- What is promised of a reading: when it gives a value, when it derails, and what it gives. -/
structure Contract {α : Type} (outcome : Result α) (accepted derails : Prop) (made : α → Prop) :
    Prop where
  accepted_iff : (∃ value, outcome = .ok value) ↔ accepted
  derails_iff : (∃ error, outcome = .error error ∧ ¬ error.IsReported) ↔ derails
  makes : ∀ value, outcome = .ok value → made value

namespace Contract

variable {α β : Type} {outcome : Result α} {accepted accepted' derails derails' : Prop}
  {made made' : α → Prop}

theorem ok {value : α} (good : accepted) (onTrack : ¬ derails) (holds : made value) :
    Contract (.ok value) accepted derails made where
  accepted_iff := by simp [good]
  derails_iff := by simp [onTrack]
  makes _ same := by
    cases same
    exact holds

theorem fault {m : Malformation} (refused : ¬ accepted) (onTrack : ¬ derails) :
    Contract (fault m) accepted derails made where
  accepted_iff := by simp [Reading.fault, refused]
  derails_iff := by simp [Reading.fault, ReadingError.IsReported, onTrack]
  makes _ same := nomatch same

theorem error {error : ReadingError} (unreported : ¬ error.IsReported) (refused : ¬ accepted)
    (derailed : derails) : Contract (.error error) accepted derails made where
  accepted_iff := by simp [refused]
  derails_iff := by simp [unreported, derailed]
  makes _ same := nomatch same

/-- What is read or shown within the limits, and derails beyond them. -/
theorem limited {outcome : Except Excess α} (gives : Outcome.Gives outcome ↔ accepted) :
    Contract (limited outcome) accepted (¬ accepted) (fun _ => True) := by
  rw [← gives]
  cases outcome with
  | ok value => exact .ok (Outcome.gives_ok value) (not_not_intro (Outcome.gives_ok value)) trivial
  | error excess =>
      exact .error (by simp [ReadingError.IsReported]) (Outcome.not_gives_error excess)
        (Outcome.not_gives_error excess)

/-- A contract with its conditions in other words. -/
theorem reword (contract : Contract outcome accepted derails made)
    (sameAccepted : accepted ↔ accepted') (sameDerails : derails ↔ derails') :
    Contract outcome accepted' derails' made where
  accepted_iff := contract.accepted_iff.trans sameAccepted
  derails_iff := contract.derails_iff.trans sameDerails
  makes := contract.makes

/-- A contract with more said of the values. -/
theorem also (contract : Contract outcome accepted derails made)
    (more : ∀ value, outcome = .ok value → made' value) :
    Contract outcome accepted derails (fun value => made value ∧ made' value) where
  accepted_iff := contract.accepted_iff
  derails_iff := contract.derails_iff
  makes value same := ⟨contract.makes value same, more value same⟩

/-- Two readings one after the other. -/
theorem bind {next : α → Result β} {madeNext : β → Prop}
    (contract : Contract outcome accepted derails made)
    (contractNext : ∀ value, made value → Contract (next value) accepted' derails' madeNext) :
    Contract (outcome >>= next) (accepted ∧ accepted') (derails ∨ accepted ∧ derails')
      madeNext := by
  -- A first reading that fails decides for both; after one that does not, the second one decides.
  cases outcome with
  | error reason =>
      have refused : ¬ accepted := fun holds => by
        obtain ⟨_, same⟩ := contract.accepted_iff.mpr holds
        cases same
      have derailed : derails ↔ ¬ reason.IsReported := by
        rw [← contract.derails_iff]
        simp
      exact ⟨by simp [bind, Except.bind, refused], by simp [bind, Except.bind, refused, derailed],
        fun _ same => nomatch same⟩
  | ok value =>
      have good : accepted := contract.accepted_iff.mp ⟨value, rfl⟩
      have onTrack : ¬ derails := fun holds => by
        obtain ⟨_, same, _⟩ := contract.derails_iff.mpr holds
        cases same
      have following := contractNext value (contract.makes value rfl)
      exact following.reword (by simp [good]) (by simp [good, onTrack])

/-- A reading for which there has to be room. -/
theorem after_enter (calls room : Nat) {next : Result α}
    (contract : calls ≤ room → Contract next accepted derails made) :
    Contract (Reading.limited (Stack.enter calls room) >>= fun _ => next)
      (calls ≤ room ∧ accepted) (¬ calls ≤ room ∨ calls ≤ room ∧ derails) made := by
  by_cases fits : calls ≤ room
  · rw [Stack.enter_of_le fits]
    exact (contract fits).reword (by simp [fits]) (by simp [fits])
  · rw [Stack.enter_of_lt (Nat.lt_of_not_le fits)]
    exact .error (by simp [ReadingError.IsReported]) (fun both => fits both.1) (.inl fits)

/-- The fault of a nested value is reported if there is room for that. -/
theorem faultIn {calls room : Nat} {m : Malformation} (refused : ¬ accepted) :
    Contract (faultIn calls room m) accepted (¬ calls ≤ room) made :=
  (after_enter calls room fun _ => fault not_false not_false).reword (by simp [refused]) (by simp)

/-- A reading the value of which is made into another one. -/
theorem map {f : α → β} {madeNext : β → Prop}
    (contract : Contract outcome accepted derails made)
    (holds : ∀ value, made value → madeNext (f value)) :
    Contract (outcome >>= fun value => .ok (f value)) accepted derails madeNext := by
  have both : Contract (outcome >>= fun value => .ok (f value)) (accepted ∧ True)
      (derails ∨ accepted ∧ False) madeNext :=
    contract.bind fun value given => ok trivial not_false (holds value given)
  exact both.reword (by simp) (by simp)

/-- The reading of what stands under a key, which may be missing. -/
theorem under {accepts derailsAt : Document → Prop} {key : Text}
    {entries : List (Document × Document)} {absent : α} (holds : made absent)
    (missing : Document.lookup key entries = none → outcome = .ok absent)
    (each : ∀ content, Document.lookup key entries = some content →
      Contract outcome (accepts content) (derailsAt content) made) :
    Contract outcome (∀ content ∈ Document.lookup key entries, accepts content)
      (∃ content ∈ Document.lookup key entries, derailsAt content) made := by
  cases found : Document.lookup key entries with
  | none =>
      rw [missing found]
      exact .ok (by simp) (by simp) holds
  | some content => exact (each content found).reword (by simp) (by simp)

/-- The reading of several documents, each in the same way. -/
theorem mapM {read : Document → Result α} {accepts derailsAt : Document → Prop}
    {documents : List Document}
    (each : ∀ document ∈ documents,
      Contract (read document) (accepts document) (derailsAt document) made) :
    Contract (documents.mapM read) (∀ document ∈ documents, accepts document)
      (FirstDerails accepts derailsAt documents) (fun values => ∀ value ∈ values, made value) := by
  induction documents with
  | nil => exact ok (by simp) not_firstDerails_nil (by simp)
  | cons document rest ih =>
      have first := each document (.head _)
      have later := ih fun other member => each other (.tail _ member)
      have whole : ∀ value, made value →
          Contract (rest.mapM read >>= fun values => pure (value :: values))
            (∀ other ∈ rest, accepts other) (FirstDerails accepts derailsAt rest)
            (fun values => ∀ value ∈ values, made value) := by
        intro value given
        refine later.map fun values givenAll other member => ?_
        rcases List.mem_cons.mp member with rfl | among
        · exact given
        · exact givenAll other among
      rw [List.mapM_cons]
      exact (first.bind whole).reword (by simp) firstDerails_cons_iff.symm

end Contract

end Reading

end PrismaEsdl.Prisma
