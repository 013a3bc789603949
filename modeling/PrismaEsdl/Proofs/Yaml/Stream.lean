import PrismaEsdl.Proofs.Files.Content
import PrismaEsdl.Yaml.Stream

/-!
What comes in of the content of a file.

Where the bytes of a file write a text, the text comes in up to a block with a code point that may
not stand there (`carries_ofBytes`): so it comes in as a whole if there is no such code point.
-/

namespace PrismaEsdl.Yaml

open Files (Intake)

namespace Stream

/-- What a stream holds of a text: all of it, or what stands in front of a code point that may not
stand in it. -/
inductive Carries : Text → Stream → Prop
  | whole {t : Text} (allowed : ∀ p ∈ t, isAllowed p = true) : Carries t (.whole t)
  | upTo {front rest : Text} (allowed : ∀ p ∈ front, isAllowed p = true)
      (unallowed : ∃ p ∈ rest, isAllowed p = false) :
      Carries (front ++ rest) ⟨front, some .malformed⟩

namespace Carries

variable {t : Text} {stream : Stream}

theorem prepend {block : Text} (allowed : block.all isAllowed = true) (carries : Carries t stream) :
    Carries (block ++ t) (stream.prepend block) := by
  have inside := List.all_eq_true.mp allowed
  cases carries with
  | whole allowed' =>
    exact .whole fun p member => (List.mem_append.mp member).elim (inside p) (allowed' p)
  | upTo allowed' unallowed =>
    rw [← List.append_assoc]
    exact .upTo (fun p member => (List.mem_append.mp member).elim (inside p) (allowed' p)) unallowed

/-- A block with a code point that may not stand there ends what comes in. -/
theorem of_not_all {block rest : Text} (unallowed : ¬ block.all isAllowed = true) :
    Carries (block ++ rest) ⟨[], some .malformed⟩ := by
  obtain ⟨p, member, other⟩ : ∃ p ∈ block, isAllowed p = false := by simpa using unallowed
  have carries : Carries ([] ++ (block ++ rest)) ⟨[], some .malformed⟩ :=
    .upTo nofun ⟨p, List.mem_append_left _ member, other⟩
  exact carries

theorem eq_whole (carries : Carries t stream) (allowed : ∀ p ∈ t, isAllowed p = true) :
    stream = .whole t := by
  cases carries with
  | whole => rfl
  | upTo _ unallowed =>
    obtain ⟨p, member, other⟩ := unallowed
    rw [allowed p (List.mem_append_right _ member)] at other
    cases other

theorem behind_ne_undecodable (carries : Carries t stream) : stream.behind ≠ some .undecodable := by
  cases carries <;> exact nofun

end Carries

theorem carries_further : ∀ (blocks : Nat) {s : Intake} {t : Text}, s.Holds t →
    t.length ≤ blocks → Carries t (further blocks s) := by
  intro blocks
  induction blocks with
  | zero =>
    intro s t _ few
    rw [List.length_eq_zero_iff.mp (Nat.le_zero.mp few)]
    exact .whole nofun
  | succ blocks ih =>
    intro s t holds few
    obtain ⟨s', given, holds'⟩ := Intake.exists_request holds blockSize
    cases t with
    | nil =>
      rw [further, given]
      exact .whole nofun
    | cons p t =>
      have fewer : ((p :: t).drop blockSize).length ≤ blocks := by
        rw [List.length_drop, blockSize]
        omega
      suffices carries : Carries ((p :: t).take blockSize ++ (p :: t).drop blockSize)
          (further (blocks + 1) s) by rwa [List.take_append_drop] at carries
      rw [further, given]
      change Carries _ (if ((p :: t).take blockSize).all isAllowed then _ else _)
      split
      · rename_i allowed
        exact .prepend allowed (ih holds' fewer)
      · rename_i unallowed
        exact .of_not_all unallowed

/-- The content of a file that writes a text carries the text. -/
theorem carries_ofBytes {content : List UInt8} {t : Text}
    (decoded : Files.text? content = some t) : Carries t (ofBytes content) := by
  obtain ⟨s, given, holds⟩ := Intake.exists_request (.start decoded) blockSize
  obtain ⟨s', given', holds'⟩ := Intake.exists_request holds blockSize
  have begins : firstBlocks { left := content }
      = some (t.take blockSize ++ (t.drop blockSize).take blockSize, s') := by
    simp only [firstBlocks, given, given', Option.bind_eq_bind, Option.bind_some, Option.pure_def]
  have few : ((t.drop blockSize).drop blockSize).length ≤ content.length := by
    have := Files.length_le_of_text? decoded
    simp only [List.length_drop]
    omega
  suffices carries : Carries ((t.take blockSize ++ (t.drop blockSize).take blockSize)
      ++ (t.drop blockSize).drop blockSize) (ofBytes content) by
    rwa [List.append_assoc, List.take_append_drop, List.take_append_drop] at carries
  rw [ofBytes, begins]
  dsimp only
  split
  · rename_i allowed
    exact .prepend allowed (carries_further _ holds' few)
  · rename_i unallowed
    exact .of_not_all unallowed

/-- A file whose bytes write a text that may stand comes in as a whole. -/
theorem ofBytes_eq_whole {content : List UInt8} {t : Text}
    (decoded : Files.text? content = some t) (allowed : ∀ p ∈ t, isAllowed p = true) :
    ofBytes content = .whole t :=
  (carries_ofBytes decoded).eq_whole allowed

/-- Bytes that stop the reading write no text. -/
theorem text?_eq_none_of_behind {content : List UInt8}
    (behind : (ofBytes content).behind = some .undecodable) : Files.text? content = none := by
  cases decoded : Files.text? content with
  | none => rfl
  | some t => exact absurd behind (carries_ofBytes decoded).behind_ne_undecodable

end Stream

end PrismaEsdl.Yaml
