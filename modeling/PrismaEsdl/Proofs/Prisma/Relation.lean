import Mathlib.Data.List.Induction
import Mathlib.Data.Option.Basic
import PrismaEsdl.Proofs.Prisma.Display

/-!
What the arguments of a relation say.

The arguments of a relation are taken in one after the other. One with a key replaces what was said
under that key, while a text gives the relation a name only if there is none yet. So the last value
under `fields` gives the id fields, the last one under `references` what they refer to, and the last
one under `name` the name of the relation, or the first text where no argument has that key,
wherever they stand among the others (`ofArguments_eq_ok_iff`). Arguments under different keys, and
texts, may change places with each other (`Reorders.ofArguments_eq_ok_iff`).

Every value under one of these keys is shown, also one that is replaced: there is a relation exactly
if all of them fit.
-/

namespace PrismaEsdl.Prisma

open Outcome (Gives bind_eq_ok_iff gives_bind_iff gives_mapM_iff gives_ok gives_return_iff
  mapM_eq_ok_iff)

/-! ### Arguments by key -/

/-- The value that an argument gives under a key. -/
def Value.under? (key : Text) : Value → Option Value
  | keyed key' value => if key' = key then some value else none
  | _ => none

/-- The text that an argument is. -/
def Value.text? : Value → Option Text
  | text t => some t
  | _ => none

namespace Relation

/-- The values that arguments give under a key, in order. -/
def valuesUnder (key : Text) (arguments : List Value) : List Value :=
  arguments.filterMap (Value.under? key)

/-- The texts among arguments, in order. -/
def texts (arguments : List Value) : List Text := arguments.filterMap Value.text?

/-- A text in quotation marks stands for what is between them, any other one for itself. -/
inductive Unquotes : Text → Text → Prop where
  | quoted (inner : Text) : Unquotes (.char '"' :: (inner ++ [.char '"'])) inner
  | bare {t : Text} (bare : ∀ inner, t ≠ .char '"' :: (inner ++ [.char '"'])) : Unquotes t t

section

variable (stack : Stack)

/-- A list names something with each of its items, and any other value names one thing. -/
inductive Names : Value → List Text → Prop where
  | list {items : List Value} {shown : List Text}
      (each : List.Forall₂ (fun item t => item.display (stack.room .relationItem) = .ok t)
        items shown) : Names (.list items) shown
  | single {value : Value} {shown : Text} (single : ∀ items, value ≠ .list items)
      (whole : value.display (stack.room .relationValue) = .ok shown) : Names value [shown]

/-- A value names a relation as it is shown, without the quotation marks around it. -/
def Titles (value : Value) (name : Text) : Prop :=
  ∃ shown, value.display (stack.room .relationValue) = .ok shown ∧ Unquotes shown name

/-- A relation is what some arguments say. -/
structure IsSaidBy (relation : Relation) (arguments : List Value) : Prop where
  fields : Option.Rel (Names stack) (valuesUnder "fields" arguments).getLast? relation.fields
  references :
    Option.Rel (Names stack) (valuesUnder "references" arguments).getLast? relation.references
  /-- A name under its key goes before a text, also before an earlier one. -/
  name : Option.Rel (Titles stack)
    ((valuesUnder "name" arguments).getLast?.or ((texts arguments).head?.map .text)) relation.name

/-- Whether the names that a value gives can be shown. -/
def FitsNames : Value → Prop
  | .list items => ∀ item ∈ items, item.Fits (stack.room .relationItem)
  | value => value.Fits (stack.room .relationValue)

/-- Whether a value can be shown that stands under a key. -/
def FitsUnder (key : Text) (value : Value) : Prop :=
  (key = "fields" ∨ key = "references" → FitsNames stack value) ∧
    (key = "name" → value.Fits (stack.room .relationValue))

/-- Whether what an argument says can be shown. -/
def Fits (argument : Value) : Prop :=
  ∀ key value, argument = .keyed key value → FitsUnder stack key value

end

/-- Arguments in another order, where those with the same key stand in the same order as before, and
the texts do. -/
structure Reorders (arguments others : List Value) : Prop where
  perm : arguments.Perm others
  keyed : ∀ key, valuesUnder key arguments = valuesUnder key others
  texts : texts arguments = texts others

variable {stack : Stack}

/-! ### Names -/

theorem names_iff (value : Value) (found : List Text) :
    Names stack value found ↔ names stack value = .ok found := by
  constructor
  · rintro (each | ⟨single, whole⟩)
    · exact mapM_eq_ok_iff.mpr each
    · cases value with
      | list items => exact absurd rfl (single items)
      | _ => exact bind_eq_ok_iff.mpr ⟨_, whole, rfl⟩
  · intro given
    cases value with
    | list items => exact .list (mapM_eq_ok_iff.mp given)
    | _ =>
      obtain ⟨shown, whole, ⟨⟩⟩ := bind_eq_ok_iff.mp given
      exact .single (by rintro _ ⟨⟩) whole

/-- The names that a value gives can be shown exactly if they fit. -/
theorem gives_names_iff (value : Value) : Gives (names stack value) ↔ FitsNames stack value := by
  cases value with
  | list items =>
    exact gives_mapM_iff.trans (forall₂_congr fun item _ => item.gives_display_iff _)
  | _ => exact gives_return_iff.trans (Value.gives_display_iff _ _)

theorem insideQuotes?_eq_some_iff {t inner : Text} :
    insideQuotes? t = some inner ↔ t = .char '"' :: (inner ++ [.char '"']) := by
  unfold insideQuotes?
  split
  · rename_i rest
    rw [Option.ite_none_right_eq_some, Option.some.injEq, List.cons.injEq]
    constructor
    · rintro ⟨ends, rfl⟩
      obtain ⟨inner, rfl⟩ := List.getLast?_eq_some_iff.mp ends
      rw [List.dropLast_concat]
      exact ⟨rfl, rfl⟩
    · rintro ⟨_, rfl⟩
      exact ⟨List.getLast?_concat, List.dropLast_concat⟩
  · rename_i unmarked
    constructor
    · rintro ⟨⟩
    · rintro rfl
      exact absurd rfl (unmarked _)

theorem insideQuotes?_eq_none_iff {t : Text} :
    insideQuotes? t = none ↔ ∀ inner, t ≠ .char '"' :: (inner ++ [.char '"']) := by
  simp only [Option.eq_none_iff_forall_ne_some, ne_eq, insideQuotes?_eq_some_iff]

theorem unquotes_iff (t bare : Text) : Unquotes t bare ↔ unquoted t = bare := by
  unfold unquoted
  constructor
  · rintro (_ | unmarked)
    · rw [insideQuotes?_eq_some_iff.mpr rfl, Option.getD_some]
    · rw [insideQuotes?_eq_none_iff.mpr unmarked, Option.getD_none]
  · rintro rfl
    cases marked : insideQuotes? t with
    | none => exact .bare (insideQuotes?_eq_none_iff.mp marked)
    | some inner =>
        rw [insideQuotes?_eq_some_iff.mp marked]
        exact .quoted inner

theorem titles_iff {value : Value} {name : Text} :
    Titles stack value name ↔
      ∃ shown, value.display (stack.room .relationValue) = .ok shown ∧ unquoted shown = name :=
  exists_congr fun _ => and_congr_right fun _ => unquotes_iff _ _

/-! ### Taking in arguments -/

theorem valuesUnder_concat (key : Text) (arguments : List Value) (argument : Value) :
    (valuesUnder key (arguments ++ [argument])).getLast?
      = (argument.under? key).or (valuesUnder key arguments).getLast? := by
  unfold valuesUnder
  rw [List.filterMap_append, List.getLast?_append]
  cases given : argument.under? key <;> simp [given]

theorem head?_texts_concat (arguments : List Value) (argument : Value) :
    (texts (arguments ++ [argument])).head? = (texts arguments).head?.or argument.text? := by
  unfold texts
  rw [List.filterMap_append, List.head?_append]
  cases given : argument.text? <;> simp [given]

variable {relation next : Relation} {arguments others : List Value} {argument : Value}

/-- An argument with a key says what it says in place of what was said under that key. -/
theorem IsSaidBy.takeKeyed {key : Text} {value : Value} (said : relation.IsSaidBy stack arguments)
    (taken : takeArgument stack relation (.keyed key value) = .ok next) :
    next.IsSaidBy stack (arguments ++ [.keyed key value]) := by
  obtain ⟨fields, references, name⟩ := said
  have last := fun other => valuesUnder_concat other arguments (.keyed key value)
  have first := head?_texts_concat arguments (.keyed key value)
  simp only [Value.under?, Value.text?, Option.or_none] at last first
  simp only [Relation.takeArgument] at taken
  split at taken
  · subst key
    obtain ⟨found, given, ⟨⟩⟩ := bind_eq_ok_iff.mp taken
    have given := (names_iff _ _).mpr given
    constructor <;> simpa [last, first]
  split at taken
  · subst key
    obtain ⟨found, given, ⟨⟩⟩ := bind_eq_ok_iff.mp taken
    have given := (names_iff _ _).mpr given
    constructor <;> simpa [last, first]
  split at taken
  · subst key
    obtain ⟨shown, whole, ⟨⟩⟩ := bind_eq_ok_iff.mp taken
    have titled := titles_iff.mpr ⟨shown, whole, rfl⟩
    constructor <;> simpa [last, first]
  · cases taken
    constructor <;> simp [*]

/-- A text says something only where there is no name. -/
theorem IsSaidBy.takeText {t : Text} (said : relation.IsSaidBy stack arguments)
    (taken : takeArgument stack relation (.text t) = .ok next) :
    next.IsSaidBy stack (arguments ++ [.text t]) := by
  obtain ⟨fields, references, name⟩ := said
  have last := fun key => valuesUnder_concat key arguments (.text t)
  have first := head?_texts_concat arguments (.text t)
  simp only [Value.under?, Value.text?, Option.none_or] at last first
  simp only [Relation.takeArgument] at taken
  split at taken
  · rename_i unnamed
    rw [unnamed] at name
    have titled : Titles stack (.text t) (unquoted t) := titles_iff.mpr ⟨t, rfl, rfl⟩
    have none : (valuesUnder "name" arguments).getLast?.or ((texts arguments).head?.map .text)
        = none := by
      revert name
      generalize Option.or _ _ = said
      rintro ⟨⟩
      rfl
    obtain ⟨noName, noText⟩ := Option.or_eq_none_iff.mp none
    rw [Option.map_eq_none_iff] at noText
    cases taken
    constructor <;> simpa [last, first, noName, noText]
  · rename_i former named
    cases taken
    refine ⟨by simpa [last], by simpa [last], ?_⟩
    cases unnamed : (valuesUnder "name" arguments).getLast? with
    | some value => simpa [last, unnamed] using name
    | none =>
      cases unwritten : (texts arguments).head? with
      | some u => simpa [last, first, unnamed, unwritten] using name
      | none =>
        rw [unnamed, unwritten, named] at name
        cases name

/-- One more argument takes in what it says, if it says anything. -/
theorem IsSaidBy.takeArgument (said : relation.IsSaidBy stack arguments)
    (taken : takeArgument stack relation argument = .ok next) :
    next.IsSaidBy stack (arguments ++ [argument]) := by
  cases argument with
  | keyed key value => exact said.takeKeyed taken
  | text t => exact said.takeText taken
  | null | bool _ | int _ | float _ | call _ _ | list _ =>
    cases taken
    obtain ⟨fields, references, name⟩ := said
    constructor <;> simpa [valuesUnder_concat, head?_texts_concat, Value.under?, Value.text?]

theorem isSaidBy_of_ofArguments : ∀ {relation : Relation},
    ofArguments stack arguments = .ok relation → relation.IsSaidBy stack arguments := by
  induction arguments using List.reverseRecOn with
  | nil =>
    rintro _ ⟨⟩
    exact ⟨.none, .none, .none⟩
  | append_singleton arguments argument ih =>
    intro relation made
    rw [ofArguments, List.foldlM_append, bind_eq_ok_iff] at made
    obtain ⟨former, made, taken⟩ := made
    obtain ⟨next, taken, ⟨⟩⟩ := bind_eq_ok_iff.mp taken
    exact (ih made).takeArgument taken

/-- Whether an argument can be taken in does not depend on what was said before. -/
theorem gives_takeArgument_iff (relation : Relation) (argument : Value) :
    Gives (takeArgument stack relation argument) ↔ Fits stack argument := by
  cases argument with
  | keyed key value =>
    have fits : Fits stack (.keyed key value) ↔ FitsUnder stack key value :=
      ⟨fun fits => fits key value rfl, by rintro fits _ _ ⟨⟩; exact fits⟩
    have shown : Gives (names stack value) ↔ FitsNames stack value := gives_names_iff value
    rw [fits]
    simp only [takeArgument, FitsUnder]
    split
    · rename_i isFields
      have other : key ≠ "name" := isFields ▸ by decide
      simp only [isFields, true_or, forall_const] at other ⊢
      exact gives_return_iff.trans (shown.trans (and_iff_left (absurd · other)).symm)
    · split
      · rename_i isReferences
        have other : key ≠ "name" := isReferences ▸ by decide
        simp only [isReferences, or_true, forall_const] at other ⊢
        exact gives_return_iff.trans (shown.trans (and_iff_left (absurd · other)).symm)
      · rename_i noFields noReferences
        simp only [noFields, noReferences, or_self, false_imp_iff, true_and]
        split
        · rename_i isName
          simp only [isName, forall_const]
          exact gives_return_iff.trans (value.gives_display_iff _)
        · rename_i noName
          exact iff_of_true (gives_ok _) (absurd · noName)
  | text t =>
    simp only [takeArgument]
    split <;> exact iff_of_true (gives_ok _) (by rintro _ _ ⟨⟩)
  | _ => exact iff_of_true (gives_ok _) (by rintro _ _ ⟨⟩)

theorem gives_ofArguments_iff :
    Gives (ofArguments stack arguments) ↔ ∀ argument ∈ arguments, Fits stack argument := by
  unfold ofArguments
  generalize ({} : Relation) = relation
  induction arguments generalizing relation with
  | nil => exact iff_of_true (gives_ok _) nofun
  | cons argument rest ih =>
    rw [List.foldlM_cons, List.forall_mem_cons, ← gives_takeArgument_iff relation]
    exact gives_bind_iff fun _ => ih _

theorem rel_unique {α β : Type} {related : α → β → Prop}
    (unique : ∀ a b b', related a b → related a b' → b = b') {a : Option α} {b b' : Option β}
    (rel : Option.Rel related a b) (rel' : Option.Rel related a b') : b = b' := by
  cases rel with
  | none =>
    cases rel'
    rfl
  | some here =>
    cases rel' with
    | some here' => rw [unique _ _ _ here here']

/-- Arguments say one thing at most. -/
theorem IsSaidBy.unique (said : relation.IsSaidBy stack arguments)
    (said' : next.IsSaidBy stack arguments) : relation = next := by
  have named (value : Value) (found found' : List Text) (names : Names stack value found)
      (names' : Names stack value found') : found = found' :=
    Except.ok.inj (((names_iff _ _).mp names).symm.trans ((names_iff _ _).mp names'))
  have titled (value : Value) (name name' : Text) (titles : Titles stack value name)
      (titles' : Titles stack value name') : name = name' := by
    obtain ⟨shown, whole, rfl⟩ := titles_iff.mp titles
    obtain ⟨shown', whole', rfl⟩ := titles_iff.mp titles'
    rw [Except.ok.inj (whole.symm.trans whole')]
  obtain ⟨name, fields, references⟩ := relation
  obtain ⟨name', fields', references'⟩ := next
  congr
  · exact rel_unique titled said.name said'.name
  · exact rel_unique named said.fields said'.fields
  · exact rel_unique named said.references said'.references

/-- There is a relation exactly if all that the arguments say can be shown, and it is what they
say. -/
theorem ofArguments_eq_ok_iff :
    ofArguments stack arguments = .ok relation ↔
      (∀ argument ∈ arguments, Fits stack argument) ∧ relation.IsSaidBy stack arguments := by
  constructor
  · intro made
    exact ⟨gives_ofArguments_iff.mp ⟨_, made⟩, isSaidBy_of_ofArguments made⟩
  · rintro ⟨fit, said⟩
    obtain ⟨other, made⟩ := gives_ofArguments_iff.mpr fit
    rw [made, (isSaidBy_of_ofArguments made).unique said]

/-- In another order that keeps each key and the texts in order, arguments say the same. -/
theorem Reorders.ofArguments_eq_ok_iff (reorders : Reorders arguments others) :
    ofArguments stack others = .ok relation ↔ ofArguments stack arguments = .ok relation := by
  have said : relation.IsSaidBy stack others ↔ relation.IsSaidBy stack arguments := by
    constructor
    · rintro ⟨fields, references, name⟩
      rw [← reorders.keyed] at fields references name
      rw [← reorders.texts] at name
      exact ⟨fields, references, name⟩
    · rintro ⟨fields, references, name⟩
      rw [reorders.keyed] at fields references name
      rw [reorders.texts] at name
      exact ⟨fields, references, name⟩
  rw [Relation.ofArguments_eq_ok_iff, Relation.ofArguments_eq_ok_iff, said]
  exact and_congr_left' (forall_congr' fun _ => by rw [reorders.perm.mem_iff])

/-- Two rows of arguments may change places if they share no key, and not both have texts. -/
theorem reorders_append_comm {front back : List Value}
    (apart : ∀ key, valuesUnder key front = [] ∨ valuesUnder key back = [])
    (named : texts front = [] ∨ texts back = []) : Reorders (front ++ back) (back ++ front) where
  perm := List.perm_append_comm
  keyed key := by
    have none := apart key
    unfold valuesUnder at none ⊢
    rw [List.filterMap_append, List.filterMap_append]
    rcases none with none | none <;> rw [none, List.nil_append, List.append_nil]
  texts := by
    unfold Relation.texts at named ⊢
    rw [List.filterMap_append, List.filterMap_append]
    rcases named with none | none <;> rw [none, List.nil_append, List.append_nil]

theorem mem_valuesUnder {key : Text} {value : Value} :
    value ∈ valuesUnder key arguments ↔ .keyed key value ∈ arguments := by
  unfold valuesUnder
  rw [List.mem_filterMap]
  constructor
  · rintro ⟨argument, member, given⟩
    cases argument with
    | keyed key' value' =>
        obtain ⟨rfl, same⟩ := Option.ite_none_right_eq_some.mp given
        cases same
        exact member
    | _ => cases given
  · intro member
    exact ⟨_, member, if_pos rfl⟩

/-- All that arguments say can be shown exactly if each value under a key can, be it the last one or
not. -/
theorem forall_fits_iff : (∀ argument ∈ arguments, Fits stack argument) ↔
    ∀ key, ∀ value ∈ valuesUnder key arguments, FitsUnder stack key value := by
  simp only [mem_valuesUnder, Fits]
  constructor
  · exact fun fit key value given => fit _ given key value rfl
  · rintro fit _ given key value rfl
    exact fit key value given

end Relation

end PrismaEsdl.Prisma
