import ContentFilter.Regex.Compile
import ContentFilter.Proofs.Regex.Row

/-!
# Spelling out expressions

Which expression a text stands for, wherever it appears in a pattern, and how such texts are put
together to groups and repetitions.  A pattern that consists of them compiles to their expressions in a
row, unless its machines are too large.
-/

namespace ContentFilter.Regex

/-! ## From text to tokens -/

/-- Tokens in front of those that are read behind them. -/
def prepend (ts : List Token) (read : Option (List Token)) : Option (List Token) :=
  ts.foldr (fun t read => read.map (t :: ·)) read

theorem prepend_cons (t : Token) (ts : List Token) (read : Option (List Token)) :
    prepend (t :: ts) read = (prepend ts read).map (t :: ·) := rfl

theorem prepend_append (ts us : List Token) (read : Option (List Token)) :
    prepend (ts ++ us) read = prepend ts (prepend us read) := List.foldr_append

theorem prepend_some (ts us : List Token) : prepend ts (some us) = some (ts ++ us) := by
  induction ts with
  | nil => rfl
  | cons t ts ih =>
    rw [prepend_cons, ih]
    rfl

/-- `Reads text ts`: wherever `text` stands, outside of classes and without blanks to skip, it is read
as the tokens `ts`. -/
structure Reads (text : List Char) (ts : List Token) : Prop where
  /-- A question mark behind the text would belong to a repetition at its end. -/
  read : ∀ fuel saved rest, rest.head? ≠ some '?' →
    tokens (fuel + ts.length) false saved (text ++ rest) = prepend ts (tokens fuel false saved rest)
  eager : text.head? ≠ some '?'
  short : ts.length ≤ text.length
  unnamed : groupNames ts = []

namespace Reads

variable {text behind : List Char} {ts us : List Token}

theorem nil : Reads [] [] := ⟨fun _ _ _ _ => rfl, by simp, Nat.le_refl _, rfl⟩

theorem append (first : Reads text ts) (second : Reads behind us) :
    Reads (text ++ behind) (ts ++ us) := by
  constructor
  case read =>
    intro fuel saved rest eager
    have follows : (behind ++ rest).head? ≠ some '?' := by
      rw [List.head?_append]
      cases behind with
      | nil => exact eager
      | cons c behind => exact second.eager
    rw [List.length_append, List.append_assoc, Nat.add_comm ts.length, ← Nat.add_assoc,
      first.read _ _ _ follows, second.read _ _ _ eager, prepend_append]
  case eager =>
    rw [List.head?_append]
    cases text with
    | nil => exact second.eager
    | cons c text => exact first.eager
  case short =>
    have := first.short
    have := second.short
    rw [List.length_append, List.length_append]
    omega
  case unnamed =>
    have none : groupNames (ts ++ us) = groupNames ts ++ groupNames us := List.filterMap_append
    rw [none, first.unnamed, second.unnamed]
    rfl

theorem skipLazy_of_eager {rest : List Char} (eager : rest.head? ≠ some '?') :
    skipLazy rest = rest := by
  unfold skipLazy
  split
  · exact absurd rfl eager
  · rfl

theorem star : Reads ['*'] [.repetition 0 none] := by
  refine ⟨fun fuel saved rest eager => ?_, by decide, Nat.le_refl _, rfl⟩
  show (tokens fuel false saved (skipLazy rest)).map _ = _
  rw [skipLazy_of_eager eager]
  rfl

theorem bar : Reads ['|'] [.bar] := ⟨fun _ _ _ _ => rfl, by decide, Nat.le_refl _, rfl⟩

theorem dot : Reads ['.'] [.atom .dot] := ⟨fun _ _ _ _ => rfl, by decide, Nat.le_refl _, rfl⟩

theorem lineStart : Reads ['^'] [.atom (.assertion .lineStart)] :=
  ⟨fun _ _ _ _ => rfl, by decide, Nat.le_refl _, rfl⟩

theorem lineEnd : Reads ['$'] [.atom (.assertion .lineEnd)] :=
  ⟨fun _ _ _ _ => rfl, by decide, Nat.le_refl _, rfl⟩

/-- The characters that begin a token other than themselves. -/
def operators : List Char := ['(', ')', '|', '?', '*', '+', '{', '[', '\\', '.', '^', '$']

theorem literal {c : Char} (plain : c ∉ operators) : Reads [c] [.atom (.literal ⟨c, false⟩)] := by
  refine ⟨fun fuel saved rest _ => ?_, ?_, Nat.le_refl _, rfl⟩
  case refine_1 =>
    show tokens (fuel + 1) false saved (c :: rest) = _
    rw [tokens]
    simp only [skipBlank]
    split <;> simp_all [operators, prepend]
  case refine_2 =>
    rintro same
    obtain rfl : c = '?' := Option.some.inj same
    exact plain (by decide)

/-- An escape that one character makes is read whatever follows it. -/
theorem escaped {c : Char}
    (alone : ∀ rest, readEscape false (c :: rest) = some (.literal ⟨c, false⟩, rest)) :
    Reads ['\\', c] [.atom (.literal ⟨c, false⟩)] := by
  refine ⟨fun fuel saved rest _ => ?_, by simp, by simp, rfl⟩
  show tokens (fuel + 1) false saved ('\\' :: c :: rest) = _
  simp [tokens, skipBlank, alone, prepend]

/-! ### Groups -/

/-- A group is read whatever follows it. -/
theorem tokens_group (inside : Reads text ts) (fuel : Nat) (saved : List Bool) (rest : List Char) :
    tokens (fuel + (ts.length + 2)) false saved ("(?:".toList ++ text ++ ')' :: rest) =
      prepend (.openGroup false none [] :: ts ++ [.closeGroup]) (tokens fuel false saved rest) := by
  have opened : tokens (fuel + (ts.length + 2)) false saved ("(?:".toList ++ text ++ ')' :: rest) =
      (tokens (fuel + 1 + ts.length) false (false :: saved) (text ++ ')' :: rest)).map
        (.openGroup false none [] :: ·) := by
    rw [show fuel + (ts.length + 2) = fuel + 1 + ts.length + 1 by omega]
    rfl
  rw [opened, inside.read _ _ _ (by simp), List.cons_append, prepend_cons, prepend_append]
  rfl

theorem groupNames_group (inside : Reads text ts) (us : List Token) :
    groupNames (.openGroup false none [] :: ts ++ us) = groupNames us := by
  have split : groupNames (.openGroup false none [] :: ts ++ us) = groupNames ts ++ groupNames us :=
    List.filterMap_append
  rw [split, inside.unnamed, List.nil_append]

theorem group (inside : Reads text ts) : Reads ("(?:".toList ++ text ++ [')'])
    (.openGroup false none [] :: ts ++ [.closeGroup]) := by
  constructor
  case read =>
    intro fuel saved rest _
    have whole := inside.tokens_group fuel saved rest
    simpa using whole
  case eager => simp
  case short =>
    have := inside.short
    simp
    omega
  case unnamed => exact inside.groupNames_group _

theorem optional (inside : Reads text ts) : Reads ("(?:".toList ++ text ++ [')', '?'])
    (.openGroup false none [] :: ts ++ [.closeGroup, .repetition 0 (some 1)]) := by
  constructor
  case read =>
    intro fuel saved rest eager
    have mark : tokens (fuel + 1) false saved ('?' :: rest) =
        prepend [.repetition 0 (some 1)] (tokens fuel false saved (skipLazy rest)) := rfl
    have whole := inside.tokens_group (fuel + 1) saved ('?' :: rest)
    have fuelSplit : fuel + 1 + (ts.length + 2) = fuel + (ts.length + 2 + 1) := by omega
    rw [mark, skipLazy_of_eager eager, ← prepend_append, fuelSplit] at whole
    simpa using whole
  case eager => simp
  case short =>
    have := inside.short
    simp
    omega
  case unnamed => exact inside.groupNames_group _

end Reads

/-! ## From tokens to trees -/

/-- `Builds ts es`: the tokens `ts` put the parts `es` behind those of the open group. -/
def Builds (ts : List Token) (es : List Expr) : Prop :=
  ∀ level outer rest, Expr.ofTokens level outer (ts ++ rest) =
    Expr.ofTokens { level with parts := es.reverse ++ level.parts } outer rest

namespace Builds

variable {ts us : List Token} {es fs : List Expr} {e f : Expr}

theorem nil : Builds [] [] := fun _ _ _ => rfl

theorem atom (e : Expr) : Builds [.atom e] [e] := fun _ _ _ => rfl

theorem append (first : Builds ts es) (second : Builds us fs) : Builds (ts ++ us) (es ++ fs) := by
  intro level outer rest
  rw [List.append_assoc, first, second, List.reverse_append, List.append_assoc]

theorem repeated (low : Nat) (high : Option Nat) (copy : Builds ts [e]) (able : e.isRepeatable) :
    Builds (ts ++ [.repetition low high]) [.repeated low high e] := by
  intro level outer rest
  rw [List.append_assoc, copy]
  simp [Expr.ofTokens, GroupLevel.repeatLast, able]

theorem group (inside : Builds ts es) :
    Builds (.openGroup false none [] :: ts ++ [.closeGroup]) [.group false [] (.ofParts es)] := by
  intro level outer rest
  rw [List.append_assoc, List.cons_append, Expr.ofTokens, inside]
  simp [Expr.ofTokens, GroupLevel.start, GroupLevel.push, GroupLevel.inside, Expr.ofBranches]

theorem choice (left : Builds ts [e]) (right : Builds us [f]) :
    Builds (.openGroup false none [] :: (ts ++ .bar :: us) ++ [.closeGroup])
      [.group false [] (.alternate e f)] := by
  intro level outer rest
  rw [List.append_assoc, List.cons_append, List.append_assoc, Expr.ofTokens, left,
    List.cons_append, Expr.ofTokens, right]
  simp [Expr.ofTokens, GroupLevel.start, GroupLevel.push, GroupLevel.inside, GroupLevel.nextBranch,
    Expr.ofBranches, Expr.ofParts]

end Builds

/-! ## Height -/

theorem Expr.height_ofParts_le {es : List Expr} {bound : Nat} (low : ∀ e ∈ es, e.height ≤ bound) :
    (ofParts es).height ≤ bound + 1 := by
  induction es with
  | nil => exact Nat.zero_le _
  | cons e rest ih =>
    have first := low e List.mem_cons_self
    cases rest with
    | nil => exact Nat.le_succ_of_le first
    | cons f rest =>
      have behind := ih fun e member => low e (List.mem_cons_of_mem _ member)
      have chained : (ofParts (f :: rest)).isConcat = false →
          (ofParts (f :: rest)).height ≤ bound := by
        cases rest with
        | nil => exact fun _ => low f (by simp)
        | cons g rest =>
          intro none
          cases none
      simp only [ofParts, height]
      split
      · omega
      · rename_i single
        have := chained (by simpa using single)
        omega

/-- The tree of a text that builds parts is the chain of the parts. -/
theorem parse_of_reads {text : List Char} {ts : List Token} {es : List Expr} (reads : Reads text ts)
    (builds : Builds ts es) (low : ∀ e ∈ es, e.height < maxHeight) :
    Expr.parse text = some (.ofParts es) := by
  have enough : text.length + 1 = text.length - ts.length + 1 + ts.length := by
    have := reads.short
    omega
  have read : tokens (text.length + 1) false [] text = some ts := by
    have whole := reads.read (text.length - ts.length + 1) [] [] (by simp)
    have done : tokens (text.length - ts.length + 1) false [] [] = some [] := rfl
    rwa [List.append_nil, done, prepend_some, List.append_nil, ← enough] at whole
  have built : Expr.ofTokens (.start false []) [] ts = some (.ofParts es) := by
    have whole := builds (.start false []) [] []
    rw [List.append_nil] at whole
    rw [whole]
    show some (Expr.ofParts (es.reverse ++ []).reverse) = _
    rw [List.append_nil, List.reverse_reverse]
  have bounded : (Expr.ofParts es).height ≤ maxHeight := by
    have below : ∀ e ∈ es, e.height ≤ maxHeight - 1 := fun e member => Nat.le_pred_of_lt (low e member)
    exact Expr.height_ofParts_le below
  simp [Expr.parse, read, built, reads.unnamed, bounded]

/-! ## Expressions -/

/-- The modes in which a pattern begins. -/
def Modes.initial (ignoreCase : Bool) : Modes := ⟨ignoreCase, false, false, .unicode, false⟩

/-- `text` stands for the expression `r`, wherever it appears in a pattern that begins with or without
regard to letter case; its tree has at most `height` levels. -/
def Denotes (ignoreCase : Bool) (height : Nat) (text : List Char) (r : Regex) : Prop :=
  ∃ ts e, Reads text ts ∧ Builds ts [e] ∧ e.isRepeatable ∧ e.height ≤ height ∧
    lower (.initial ignoreCase) e = some (r, .initial ignoreCase)

/-- What parts in a row stand for follows in a row. -/
theorem lower_ofParts {modes : Modes} {pieces : List (Expr × Regex)}
    (lowered : ∀ piece ∈ pieces, lower modes piece.1 = some (piece.2, modes)) :
    lower modes (.ofParts (pieces.map (·.1))) = some (row (pieces.map (·.2)), modes) := by
  induction pieces with
  | nil => rfl
  | cons piece rest ih =>
    have first := lowered piece List.mem_cons_self
    cases rest with
    | nil => exact first
    | cons next rest =>
      have behind := ih fun piece member => lowered piece (List.mem_cons_of_mem _ member)
      simp only [List.map_cons, Expr.ofParts, row, lower] at behind ⊢
      simp [first, behind]

variable {ignoreCase : Bool} {height : Nat}

/-- Texts that stand for expressions are, one behind the other, read as trees for them. -/
theorem exists_trees {pieces : List (List Char × Regex)}
    (denotes : ∀ piece ∈ pieces, Denotes ignoreCase height piece.1 piece.2) :
    ∃ trees : List (Expr × Regex), ∃ ts, trees.map (·.2) = pieces.map (·.2) ∧
      Reads (pieces.flatMap (·.1)) ts ∧ Builds ts (trees.map (·.1)) ∧
      (∀ tree ∈ trees, tree.1.height ≤ height) ∧
      ∀ tree ∈ trees, lower (.initial ignoreCase) tree.1 = some (tree.2, .initial ignoreCase) := by
  induction pieces with
  | nil => exact ⟨[], [], rfl, .nil, .nil, by simp, by simp⟩
  | cons piece rest ih =>
    obtain ⟨ts, e, reads, builds, -, low, lowered⟩ := denotes piece List.mem_cons_self
    obtain ⟨trees, us, regexes, behind, built, lows, lowereds⟩ :=
      ih fun piece member => denotes piece (List.mem_cons_of_mem _ member)
    refine ⟨(e, piece.2) :: trees, ts ++ us, ?_, reads.append behind, builds.append built, ?_, ?_⟩
    · exact congrArg (piece.2 :: ·) regexes
    · exact List.forall_mem_cons.2 ⟨low, lows⟩
    · exact List.forall_mem_cons.2 ⟨lowered, lowereds⟩

/-- The tree of texts, one behind the other, stands for what they stand for, in a row. -/
theorem exists_tree {pieces : List (List Char × Regex)}
    (denotes : ∀ piece ∈ pieces, Denotes ignoreCase height piece.1 piece.2) :
    ∃ ts es, Reads (pieces.flatMap (·.1)) ts ∧ Builds ts es ∧ (∀ e ∈ es, e.height ≤ height) ∧
      lower (.initial ignoreCase) (.ofParts es) =
        some (row (pieces.map (·.2)), .initial ignoreCase) := by
  obtain ⟨trees, ts, regexes, reads, builds, low, lowered⟩ := exists_trees denotes
  refine ⟨ts, trees.map (·.1), reads, builds, by simpa using low, ?_⟩
  rw [← regexes]
  exact lower_ofParts lowered

namespace Denotes

variable {text a b : List Char} {r s : Regex}

theorem mono {more : Nat} (le : height ≤ more) (denotes : Denotes ignoreCase height text r) :
    Denotes ignoreCase more text r := by
  obtain ⟨ts, e, reads, builds, able, low, lowered⟩ := denotes
  exact ⟨ts, e, reads, builds, able, Nat.le_trans low le, lowered⟩

theorem atom {e : Expr} (reads : Reads text [.atom e]) (able : e.isRepeatable)
    (low : e.height ≤ height)
    (lowered : lower (.initial ignoreCase) e = some (r, .initial ignoreCase)) :
    Denotes ignoreCase height text r :=
  ⟨_, e, reads, .atom e, able, low, lowered⟩

theorem star (copy : Denotes ignoreCase height text r) :
    Denotes ignoreCase (height + 1) (text ++ ['*']) (.repeated 0 none r) := by
  obtain ⟨ts, e, reads, builds, able, low, lowered⟩ := copy
  refine ⟨_, _, reads.append .star, builds.repeated 0 none able, rfl, Nat.succ_le_succ low, ?_⟩
  simp [lower, lowered]

theorem optional {pieces : List (List Char × Regex)}
    (inside : ∀ piece ∈ pieces, Denotes ignoreCase height piece.1 piece.2) :
    Denotes ignoreCase (height + 3) ("(?:".toList ++ pieces.flatMap (·.1) ++ [')', '?'])
      (.repeated 0 (some 1) (.group false (row (pieces.map (·.2))))) := by
  obtain ⟨ts, es, reads, builds, low, lowered⟩ := exists_tree inside
  have built := builds.group.repeated 0 (some 1) rfl
  rw [List.append_assoc] at built
  have bounded := Expr.height_ofParts_le low
  refine ⟨_, _, reads.optional, built, rfl, ?_, ?_⟩
  · simp only [Expr.height]
    omega
  · simp [lower, Modes.apply, lowered]

theorem choice (left : Denotes ignoreCase height a r) (right : Denotes ignoreCase height b s) :
    Denotes ignoreCase (height + 2) ("(?:".toList ++ (a ++ '|' :: b) ++ [')'])
      (.group false (.alternate r s)) := by
  obtain ⟨ts, e, readsLeft, buildsLeft, -, lowLeft, loweredLeft⟩ := left
  obtain ⟨us, f, readsRight, buildsRight, -, lowRight, loweredRight⟩ := right
  have reads := (readsLeft.append (Reads.bar.append readsRight)).group
  refine ⟨_, _, reads, buildsLeft.choice buildsRight, rfl, ?_, ?_⟩
  · simp only [Expr.height]
    split <;> omega
  · simp [lower, Modes.apply, loweredLeft, loweredRight]

/-! ### Single characters -/

/-- The character passes for itself alone, or for every one in its orbit where case does not count. -/
theorem literal {c : Char} (plain : c ∉ Reads.operators) :
    Denotes ignoreCase 0 [c] (.one ((Modes.initial ignoreCase).fold (.singleton c))) :=
  atom (.literal plain) rfl (Nat.le_refl _) rfl

theorem escaped {c : Char}
    (alone : ∀ rest, readEscape false (c :: rest) = some (.literal ⟨c, false⟩, rest)) :
    Denotes ignoreCase 0 ['\\', c] (.one ((Modes.initial ignoreCase).fold (.singleton c))) :=
  atom (.escaped alone) rfl (Nat.le_refl _) rfl

theorem dot : Denotes ignoreCase 0 ['.'] (.one (.complement (.singleton '\n'))) :=
  atom .dot rfl (Nat.le_refl _) rfl

theorem lineStart : Denotes ignoreCase 0 ['^'] (.position .textStart) :=
  atom .lineStart rfl (Nat.le_refl _) rfl

theorem lineEnd : Denotes ignoreCase 0 ['$'] (.position .textEnd) :=
  atom .lineEnd rfl (Nat.le_refl _) rfl

end Denotes

/-! ## Patterns -/

/-- A pattern put together from texts compiles to what they stand for, in a row, if the machines for it
are small enough. -/
theorem compile_flatMap {pieces : List (List Char × Regex)} (shallow : height < maxHeight)
    (denotes : ∀ piece ∈ pieces, Denotes ignoreCase height piece.1 piece.2) (maxSize : Nat) :
    compile maxSize ignoreCase (pieces.flatMap (·.1)) =
      if (row (pieces.map (·.2))).plan.fits maxSize then some (row (pieces.map (·.2)))
      else none := by
  obtain ⟨ts, es, reads, builds, low, lowered⟩ := exists_tree denotes
  have parsed := parse_of_reads reads builds fun e member => Nat.lt_of_le_of_lt (low e member) shallow
  rw [Modes.initial] at lowered
  simp [compile, parsed, lowered]

end ContentFilter.Regex
