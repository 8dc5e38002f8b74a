import ContentFilter.Proofs.Regex.Spelling

/-!
# Validity and letter case

Whether a pattern stands for an expression depends on its text and on the alphabets in force, and on no
other mode.  So a pattern is an expression where letter case counts exactly if it is one where case does
not count: what letter case can change is the size of the machines.
-/

namespace ContentFilter.Regex

/-! ## Readings side by side -/

section Rel

variable {α β γ δ : Type} {R : α → β → Prop} {S : γ → δ → Prop} {x : Option α} {y : Option β}

theorem rel_self (x : Option α) : Option.Rel Eq x x := by
  cases x with
  | none => exact .none
  | some a => exact .some rfl

theorem rel_bind {f : α → Option γ} {g : β → Option δ} (first : Option.Rel R x y)
    (next : ∀ a b, R a b → Option.Rel S (f a) (g b)) : Option.Rel S (x >>= f) (y >>= g) := by
  cases first with
  | none => exact .none
  | some related => exact next _ _ related

theorem rel_map {f : α → γ} {g : β → δ} (first : Option.Rel R x y)
    (next : ∀ a b, R a b → S (f a) (g b)) : Option.Rel S (x.map f) (y.map g) := by
  cases first with
  | none => exact .none
  | some related => exact .some (next _ _ related)

theorem isSome_eq_of_rel (related : Option.Rel R x y) : x.isSome = y.isSome := by
  cases related <;> rfl

end Rel

/-- Both are sets, or neither is one. -/
abbrev BothSets (x y : Option CharSet) : Prop := Option.Rel (fun _ _ => True) x y

/-! ## The alphabet decides -/

section Alphabet

variable {a b : Modes} (same : a.alphabet = b.alphabet)
include same

namespace Modes

theorem alphabet_set (value : Bool) (f : Flag) :
    (a.set value f).alphabet = (b.set value f).alphabet := by
  cases f with
  | unicode => rfl
  | ignoreCase | multiLine | dotMatchesNewline | swapGreed | crlf | verbose => exact same

theorem alphabet_apply (value : Bool) (items : List FlagItem) :
    (a.apply value items).alphabet = (b.apply value items).alphabet := by
  induction items generalizing a b value with
  | nil => exact same
  | cons item rest ih =>
    cases item with
    | off => exact ih same false
    | flag f => exact ih (alphabet_set same value f) value

theorem bothSets_negate (negated : Bool) (s t : CharSet) :
    BothSets (a.negate negated s) (b.negate negated t) := by
  unfold negate
  rw [same]
  cases negated with
  | false => exact .some trivial
  | true =>
    cases b.alphabet with
    | unicode => exact .some trivial
    | ascii => exact .none

end Modes

theorem bothSets_propertySet (query : PropertyQuery) (negated : Bool) :
    BothSets (propertySet a query negated) (propertySet b query negated) := by
  unfold propertySet
  rw [same]
  cases b.alphabet with
  | ascii => exact .none
  | unicode =>
    cases query.toSet? with
    | none => exact .none
    | some set => exact Modes.bothSets_negate same negated _ _

theorem rel_classLiteral (l : Literal) : Option.Rel Eq (classLiteral a l) (classLiteral b l) := by
  have alike : classLiteral a l = classLiteral b l := by rw [classLiteral, classLiteral, same]
  rw [alike]
  exact rel_self _

theorem bothSets_toSet? (set : ClassSet) : BothSets (set.toSet? a) (set.toSet? b) := by
  induction set with
  | empty => exact .some trivial
  | literal l => exact rel_map (rel_classLiteral same l) fun _ _ _ => trivial
  | range low high =>
    exact rel_bind (rel_classLiteral same low) fun _ _ _ =>
      rel_bind (rel_classLiteral same high) fun _ _ _ => .some trivial
  | named name negated => exact Modes.bothSets_negate same negated _ _
  | shorthand kind negated => exact Modes.bothSets_negate same negated _ _
  | property query negated => exact bothSets_propertySet same query negated
  | bracketed negated inside ih =>
    exact rel_bind ih fun _ _ _ => Modes.bothSets_negate same negated _ _
  | union left right left_ih right_ih =>
    exact rel_bind left_ih fun _ _ _ => rel_bind right_ih fun _ _ _ => .some trivial
  | operation op left right left_ih right_ih =>
    exact rel_bind left_ih fun _ _ _ => rel_bind right_ih fun _ _ _ => .some trivial

theorem bothSets_dotSet : BothSets (dotSet a) (dotSet b) := by
  unfold dotSet
  rw [same]
  cases b.alphabet with
  | ascii => exact .none
  | unicode => exact .some trivial

theorem bothSets_literalSet (l : Literal) : BothSets (literalSet a l) (literalSet b l) := by
  unfold literalSet
  rw [same]
  cases b.alphabet with
  | unicode => exact .some trivial
  | ascii =>
    dsimp only
    split
    · exact .none
    · exact .some trivial

/-- Both are expressions, with the same alphabet in force behind them, or neither is one. -/
abbrev BothExpressions (x y : Option (Regex × Modes)) : Prop :=
  Option.Rel (fun left right => left.2.alphabet = right.2.alphabet) x y

theorem bothExpressions_one {x y : Option CharSet} (both : BothSets x y) :
    BothExpressions (x.map fun set => (.one set, a)) (y.map fun set => (.one set, b)) :=
  rel_map both fun _ _ _ => same

end Alphabet

/-- Whether a tree can be lowered depends on the alphabet in force, and on no other mode. -/
theorem bothExpressions_lower (e : Expr) {a b : Modes} (same : a.alphabet = b.alphabet) :
    BothExpressions (lower a e) (lower b e) := by
  induction e generalizing a b with
  | empty => exact .some same
  | assertion kind => exact .some same
  | setFlags items => exact .some (Modes.alphabet_apply same true items)
  | literal l => exact bothExpressions_one same (bothSets_literalSet same l)
  | dot => exact bothExpressions_one same (bothSets_dotSet same)
  | shorthand kind negated => exact bothExpressions_one same (Modes.bothSets_negate same negated _ _)
  | property query negated => exact bothExpressions_one same (bothSets_propertySet same query negated)
  | bracketed negated inside =>
    exact rel_bind (bothSets_toSet? same inside) fun _ _ _ =>
      rel_bind (Modes.bothSets_negate same negated _ _) fun _ _ _ => .some same
  | repeated low high e ih => exact rel_bind (ih same) fun _ _ behind => .some behind
  | group captures flags e ih =>
    exact rel_bind (ih (Modes.alphabet_apply same true flags)) fun _ _ _ => .some same
  | alternate left right left_ih right_ih | concat left right left_ih right_ih =>
    exact rel_bind (left_ih same) fun _ _ between =>
      rel_bind (right_ih between) fun _ _ behind => .some behind

/-! ## Patterns -/

/-- The expression of a pattern, whatever the size of its machines. -/
def read (ignoreCase : Bool) (pattern : List Char) : Option Regex := do
  let e ← Expr.parse pattern
  let (r, _) ← lower (.initial ignoreCase) e
  pure r

/-- A pattern compiles to its expression if the machines are small enough. -/
theorem compile_eq_some_iff {maxSize : Nat} {ignoreCase : Bool} {pattern : List Char} {r : Regex} :
    compile maxSize ignoreCase pattern = some r ↔
      read ignoreCase pattern = some r ∧ r.plan.fits maxSize := by
  unfold compile read
  simp only [Option.bind_eq_bind, Option.bind_eq_some_iff, Option.pure_def, Option.some.injEq,
    Option.ite_none_right_eq_some]
  constructor
  · rintro ⟨e, parsed, ⟨_, behind⟩, lowered, fits, rfl⟩
    exact ⟨⟨e, parsed, _, lowered, rfl⟩, fits⟩
  · rintro ⟨⟨e, parsed, ⟨_, behind⟩, lowered, rfl⟩, fits⟩
    exact ⟨e, parsed, _, lowered, fits, rfl⟩

/-- What is an expression where letter case counts is one where it does not, and the other way round. -/
theorem isSome_read (pattern : List Char) (ignoreCase other : Bool) :
    (read ignoreCase pattern).isSome = (read other pattern).isSome := by
  have both : Option.Rel (fun _ _ => True) (read ignoreCase pattern) (read other pattern) := by
    refine rel_bind (rel_self _) ?_
    rintro e _ rfl
    exact rel_bind (bothExpressions_lower e rfl) fun _ _ _ => .some trivial
  exact isSome_eq_of_rel both

end ContentFilter.Regex
