import Mathlib.Logic.ExistsUnique
import PrismaEsdl.Proofs.Conversion.Resolution

/-!
What a property is, by its type and by its default.

The type of a property and the expression for its default are found independently, both from the
declared type of the field: the one asks whether that is an enum and then looks for a scalar, the
other whether it is an enum, `String` or `Boolean`. They agree: a token stands as the default of a
property under exactly one of three rules, and each rule says what the type of the property is, too
(`TokenRule.Governs`); any other default is a call that the type has no part in
(`property_defaults_agree_with_types`).
-/

namespace PrismaEsdl.Conversion

open Prisma Esdl Log

/-! ### Expressions -/

theorem defaultFunctions_get?_eq_some_iff {function expression : Text} :
    defaultFunctions.get? function = some expression ↔
      function = "now" ∧ expression = "datetime_current()" ∨
        function = "uuid" ∧ expression = "uuid_generate_v4()" := by
  have listed : defaultFunctions.entries = [(("now" : Text), ("datetime_current()" : Text)),
      (("uuid" : Text), ("uuid_generate_v4()" : Text))] := rfl
  rw [Table.get?_eq_some_iff, listed]
  simp only [List.mem_cons, List.not_mem_nil, or_false, Prod.mk.injEq]

/-- What the expression for a token is under a type that has a name. -/
theorem defaultExpression?_text_eq_some_iff {enums : Table Text (List Text)}
    {name token expression : Text} :
    defaultExpression? enums (.named name) (.text token) = some expression ↔
      name ∈ enums.keys ∧ expression = name ++ "." ++ token ∨
        name ∉ enums.keys ∧
          (name = "String" ∧ expression = stringLiteral token ∨
            name = "Boolean" ∧ expression = token) := by
  simp only [defaultExpression?, Table.contains_iff_mem_keys]
  split
  · rename_i enumerated
    simp [enumerated, eq_comm]
  · rename_i notEnumerated
    split
    · rename_i isString
      subst isString
      simp [notEnumerated, eq_comm]
    · rename_i notString
      split
      · rename_i isBoolean
        subst isBoolean
        simp [notEnumerated, eq_comm]
      · rename_i notBoolean
        simp [notEnumerated, notString, notBoolean]

/-- A default that has an expression is a token under a type that has a name, or a call. -/
theorem exists_text_or_call {enums : Table Text (List Text)} {type : FieldType} {value : Value}
    {expression : Text} (expressed : defaultExpression? enums type value = some expression) :
    (∃ token name, value = .text token ∧ type = .named name) ∨
      ∃ function arguments, value = .call function arguments ∧
        defaultFunctions.get? function = some expression := by
  cases value with
  | text token =>
      cases type with
      | named name => exact .inl ⟨token, name, rfl, rfl⟩
      | call _ _ => cases expressed
  | call function arguments => exact .inr ⟨function, arguments, rfl, expressed⟩
  | null | bool _ | int _ | float _ | keyed _ _ | list _ => cases expressed

/-! ### Types and defaults of properties -/

/-- A type under which tokens are defaults: that of an enum, `String` or `Boolean`. -/
def TakesTokens (enums : Table Text (List Text)) (type : FieldType) : Prop :=
  ∃ name, type = .named name ∧ (name ∈ enums.keys ∨ name = "String" ∨ name = "Boolean")

/-- The rules under which a token is the default of a property. -/
inductive TokenRule where
  | enum
  | string
  | boolean
  deriving DecidableEq

/-- What a rule says of a token and of the property that it is the default of, by the declared type
of the field. -/
def TokenRule.Governs (enums : Table Text (List Text)) (declared : FieldType) (token : Text)
    (property : Pointer) : TokenRule → Prop
  | enum => ∃ name, declared = .named name ∧ name ∈ enums.keys ∧ property.type = name ∧
      property.default = some (name ++ "." ++ token)
  | string => declared = .named "String" ∧ ("String" : Text) ∉ enums.keys ∧
      property.type = "str" ∧ property.default = some (stringLiteral token)
  | boolean => declared = .named "Boolean" ∧ ("Boolean" : Text) ∉ enums.keys ∧
      property.type = "bool" ∧ property.default = some token

/-- At most one rule says something of a property. -/
theorem TokenRule.Governs.unique {enums : Table Text (List Text)} {declared : FieldType}
    {token : Text} {property : Pointer} {rule rule' : TokenRule}
    (governs : rule.Governs enums declared token property)
    (governs' : rule'.Governs enums declared token property) : rule = rule' := by
  cases rule <;> cases rule' <;> simp_all [TokenRule.Governs]

section

variable {stack : Stack} {schema : Prisma.Schema} {models : Table Text Model} {model : Model}
  {field : Field} {pointer : Pointer}

theorem Lands.default_of_property
    (lands : Lands stack models schema.enums model field (.property pointer)) :
    pointer.default = defaultOf schema.enums field := by
  cases lands
  rfl

/-- A property whose default is made of a token has its type and its default under one rule. -/
theorem Lands.exists_rule {token expression : Text}
    (lands : Lands stack models schema.enums model field (.property pointer))
    (given : field.default? = some (.text token)) (expressed : pointer.default = some expression) :
    ∃ rule : TokenRule, rule.Governs schema.enums field.type token pointer := by
  obtain ⟨name, named, _, known⟩ := lands.type_of_property
  have same : defaultExpression? schema.enums (.named name) (.text token) = some expression := by
    rw [lands.default_of_property, defaultOf, given, Option.bind_some, named] at expressed
    exact expressed
  rw [named]
  rcases known with ⟨enumerated, typed⟩ | ⟨notEnumerated, typed⟩
  · rcases defaultExpression?_text_eq_some_iff.mp same with ⟨_, rfl⟩ | ⟨notEnumerated, _⟩
    · exact ⟨.enum, name, rfl, enumerated, typed, expressed⟩
    · exact absurd enumerated notEnumerated
  · rcases defaultExpression?_text_eq_some_iff.mp same with
      ⟨enumerated, _⟩ | ⟨_, ⟨rfl, rfl⟩ | ⟨rfl, rfl⟩⟩
    · exact absurd enumerated notEnumerated
    · exact ⟨.string, rfl, notEnumerated, (Option.some.inj typed).symm, expressed⟩
    · exact ⟨.boolean, rfl, notEnumerated, (Option.some.inj typed).symm, expressed⟩

/-- A property has no default that is no call, unless tokens are defaults under its type. -/
theorem Lands.default_eq_none {value : Value}
    (lands : Lands stack models schema.enums model field (.property pointer))
    (given : field.default? = some value)
    (noCall : ∀ function arguments, value ≠ .call function arguments)
    (other : ¬ TakesTokens schema.enums field.type) : pointer.default = none := by
  rw [lands.default_of_property, defaultOf, given, Option.bind_some,
    Option.eq_none_iff_forall_ne_some]
  intro expression expressed
  rcases exists_text_or_call expressed with ⟨token, name, rfl, named⟩ | ⟨_, _, isCall, _⟩
  · rw [named] at expressed
    rcases defaultExpression?_text_eq_some_iff.mp expressed with
      ⟨enumerated, _⟩ | ⟨_, ⟨isString, _⟩ | ⟨isBoolean, _⟩⟩
    · exact other ⟨name, named, .inl enumerated⟩
    · exact other ⟨name, named, .inr (.inl isString)⟩
    · exact other ⟨name, named, .inr (.inr isBoolean)⟩
  · exact noCall _ _ isCall

end

/-- The type of a property of a converted schema and its default agree. A default that is made of a
token stands under exactly one of three rules, by the declared type of the field: under that of an
enum, also if the enum has the name of a scalar, or else under that of `String` or of `Boolean`. Any
other default is a call of one of two functions. Nothing but a call makes a default for a property
of any other type. -/
theorem property_defaults_agree_with_types {stack : Stack} {schema : Prisma.Schema}
    {result : Esdl.Schema} (converted : (convert stack schema).outcome = .ok result)
    {name property : Text} {type : ObjectType} {pointer : Pointer}
    (declared : result.types.get? name = some type)
    (found : type.props.get? property = some pointer) :
    ∃ models, schema.models stack = .ok models ∧ ∃ model field,
      models.get? name = some model ∧ model.fields.get? property = some field ∧
      (∀ expression, pointer.default = some expression →
        (∃ token, field.default? = some (.text token) ∧
          ∃! rule : TokenRule, rule.Governs result.enums field.type token pointer) ∨
        ∃ function arguments, field.default? = some (.call function arguments) ∧
          (function = "now" ∧ expression = "datetime_current()" ∨
            function = "uuid" ∧ expression = "uuid_generate_v4()")) ∧
      ((∀ function arguments, field.default? ≠ some (.call function arguments)) →
        ¬ TakesTokens result.enums field.type → pointer.default = none) := by
  obtain ⟨models, indexed⟩ := exists_models_of_convert converted
  obtain ⟨model, member, rfl, outcome⟩ :=
    exists_model_of_convert indexed converted (Table.get?_eq_some_iff.mp declared)
  have unique := Schema.isIndexed_of_mem indexed member
  obtain ⟨field, memberField, rfl, lands⟩ :=
    (mem_props_iff unique outcome).mp (Table.get?_eq_some_iff.mp found)
  rw [(types_of_convert indexed converted).1]
  refine ⟨models, indexed, model, field, (Schema.get?_models_iff indexed).mpr ⟨member, rfl⟩,
    Table.get?_eq_some_iff.mpr (unique.mem_entries memberField), ?_, ?_⟩
  · intro expression expressed
    have same := expressed
    rw [lands.default_of_property, defaultOf] at same
    obtain ⟨value, given, same⟩ := Option.bind_eq_some_iff.mp same
    rcases exists_text_or_call same with ⟨token, _, rfl, _⟩ | ⟨function, arguments, rfl, listed⟩
    · obtain ⟨rule, governs⟩ := lands.exists_rule given expressed
      exact .inl ⟨token, given, rule, governs, fun _ governs' => governs'.unique governs⟩
    · exact .inr ⟨function, arguments, given, defaultFunctions_get?_eq_some_iff.mp listed⟩
  · intro noCall other
    cases given : field.default? with
    | none => rw [lands.default_of_property, defaultOf, given, Option.bind_none]
    | some value =>
        refine lands.default_eq_none given (fun function arguments isCall => ?_) other
        exact noCall function arguments (isCall ▸ given)

/-- Items with a number of their own. Whether there is one of them left is told by an enum that has
the name of a scalar. -/
def items : Prisma.Schema := ⟨[
  .enum "Boolean" [.value "YES", .value "NO"],
  .model "Item" [
    .field ⟨"id", .text "String", false, false, [⟨"default", [.call "uuid" []]⟩]⟩,
    .field ⟨"available", .text "Boolean", false, false, [⟨"default", [.text "YES"]⟩]⟩,
    .field ⟨"price", .text "Float", false, false, [⟨"default", [.text "1.5"]⟩]⟩]]⟩

theorem items_defaults_agree :
    ∃ result type pointer, ((convert .usual items).outcome = .ok result ∧
        result.types.get? "Item" = some type ∧ type.props.get? "available" = some pointer ∧
        pointer.default = some "Boolean.YES") ∧
      ∃ models, items.models .usual = .ok models ∧ ∃ model field,
        models.get? "Item" = some model ∧ model.fields.get? "available" = some field ∧
        (∀ expression, pointer.default = some expression →
          (∃ token, field.default? = some (.text token) ∧
            ∃! rule : TokenRule, rule.Governs result.enums field.type token pointer) ∨
          ∃ function arguments, field.default? = some (.call function arguments) ∧
            (function = "now" ∧ expression = "datetime_current()" ∨
              function = "uuid" ∧ expression = "uuid_generate_v4()")) ∧
        ((∀ function arguments, field.default? ≠ some (.call function arguments)) →
          ¬ TakesTokens result.enums field.type → pointer.default = none) := by
  have converted : (convert .usual items).outcome = .ok _ := rfl
  exact ⟨_, _, _, ⟨converted, rfl, rfl, rfl⟩,
    property_defaults_agree_with_types converted rfl rfl⟩

end PrismaEsdl.Conversion
