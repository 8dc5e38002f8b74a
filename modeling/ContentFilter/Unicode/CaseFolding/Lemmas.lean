import ContentFilter.Unicode.CaseFolding

/-!
# Laws of case orbits

Between characters of ASCII, sharing an orbit is equality up to the case of ASCII letters.  A character
of ASCII that is no letter shares its orbit with no other one.
-/

namespace ContentFilter.Unicode

/-- What holds of the first 128 characters, one by one, holds of the characters of ASCII. -/
theorem forall_ascii {p : Char → Prop} (each : ∀ i : Fin 128, p (Char.ofNat i)) {c : Char}
    (ascii : c.toNat < 128) : p c := by
  have this := each ⟨c.toNat, ascii⟩
  rwa [Char.ofNat_toNat] at this

theorem caseOrbit_of_ascii {c : Char} (ascii : c.toNat < 128) : caseOrbit c = asciiCaseOrbit c :=
  if_pos ascii

/-! ## Within ASCII -/

/-- The table of ASCII, character by character: an orbit is that of the small letter, its members of
ASCII differ in case at most, and in nothing where there is no letter. -/
theorem asciiCaseOrbit_table : ∀ {c : Char}, c.toNat < 128 →
    c ∈ asciiCaseOrbit c.toLower ∧ asciiCaseOrbit c.toLower = asciiCaseOrbit c ∧
      ((asciiCaseOrbit c).all fun wanted =>
        128 ≤ wanted.toNat || (wanted.toLower == c.toLower && (wanted.isAlpha || c == wanted))) ∧
      (c.isAlpha = false → asciiCaseOrbit c = [c]) :=
  @forall_ascii _ (by decide +kernel)

theorem of_mem_asciiCaseOrbit {wanted c : Char} (ascii : c.toNat < 128)
    (member : wanted ∈ asciiCaseOrbit c) (wantedAscii : wanted.toNat < 128) :
    wanted.toLower = c.toLower ∧ (wanted.isAlpha = false → c = wanted) := by
  obtain ⟨-, -, all, -⟩ := asciiCaseOrbit_table ascii
  have known := List.all_eq_true.1 all wanted member
  simp only [Nat.not_le.2 wantedAscii, decide_false, Bool.false_or, Bool.and_eq_true, beq_iff_eq,
    Bool.or_eq_true] at known
  refine ⟨known.1, fun caseless => known.2.resolve_left ?_⟩
  rw [caseless]
  exact Bool.false_ne_true

/-- Characters of ASCII share an orbit if they are equal up to the case of letters. -/
theorem mem_caseOrbit_iff_toLower {wanted c : Char} (wantedAscii : wanted.toNat < 128)
    (ascii : c.toNat < 128) : wanted ∈ caseOrbit c ↔ wanted.toLower = c.toLower := by
  rw [caseOrbit_of_ascii ascii]
  constructor
  · exact fun member => (of_mem_asciiCaseOrbit ascii member wantedAscii).1
  · intro same
    obtain ⟨-, ofSmall, -⟩ := asciiCaseOrbit_table ascii
    rw [← ofSmall, ← same]
    exact (asciiCaseOrbit_table wantedAscii).1

/-! ## Characters without case -/

theorem caseOrbit_of_caseless {c : Char} (ascii : c.toNat < 128) (caseless : c.isAlpha = false) :
    caseOrbit c = [c] := by
  obtain ⟨-, -, -, alone⟩ := asciiCaseOrbit_table ascii
  rw [caseOrbit_of_ascii ascii]
  exact alone caseless

theorem isAlpha_of_mem_largeCaseOrbits {orbit : List Char} (large : orbit ∈ largeCaseOrbits)
    {c : Char} (member : c ∈ orbit) (ascii : c.toNat < 128) : c.isAlpha := by
  have all : largeCaseOrbits.all (·.all fun c => 128 ≤ c.toNat || c.isAlpha) := by decide +kernel
  have known := List.all_eq_true.1 (List.all_eq_true.1 all orbit large) c member
  simpa [Nat.not_le.2 ascii] using known

/-- A run of pairs holds code points of characters only, all of them beyond ASCII. -/
theorem not_ascii_of_partner? {run : CasePairRun} (member : run ∈ casePairRuns) {n partner : Nat}
    (found : run.partner? n = some partner) : 128 ≤ (Char.ofNat partner).toNat := by
  have all : ∀ run ∈ casePairRuns, 128 ≤ run.first ∧
      (run.first + run.count * run.step + run.distance < 0xD800 ∨ 0xDFFF < run.first ∧
        run.first + run.count * run.step + run.distance < 0x110000) := by decide +kernel
  obtain ⟨beyond, valid⟩ := all run member
  have within : run.first ≤ partner ∧
      partner < run.first + run.count * run.step + run.distance := by
    simp only [CasePairRun.partner?, CasePairRun.isLower] at found
    grind
  have isValid : partner.isValidChar := by
    simp only [Nat.isValidChar]
    omega
  have exact : (Char.ofNat partner).toNat = partner := by
    rw [Char.ofNat, dif_pos isValid]
    rfl
  omega

/-- A character of ASCII that is no letter stands in its own orbit only. -/
theorem mem_caseOrbit_iff_eq {wanted c : Char} (ascii : wanted.toNat < 128)
    (caseless : wanted.isAlpha = false) : wanted ∈ caseOrbit c ↔ c = wanted := by
  by_cases near : c.toNat < 128
  · constructor
    · intro member
      rw [caseOrbit_of_ascii near] at member
      exact (of_mem_asciiCaseOrbit near member ascii).2 caseless
    · rintro rfl
      exact (mem_caseOrbit_iff_toLower ascii ascii).2 rfl
  · have other : c ≠ wanted := fun same => near (same ▸ ascii)
    simp only [other, iff_false]
    rw [caseOrbit, if_neg near]
    split
    · rename_i orbit found
      intro member
      have large := List.mem_of_find?_eq_some found
      simp [isAlpha_of_mem_largeCaseOrbits large member ascii] at caseless
    · split
      · rename_i partner found
        obtain ⟨run, member, isPartner⟩ := List.exists_of_findSome?_eq_some found
        have beyond := not_ascii_of_partner? member isPartner
        grind
      · simp [Ne.symm other]

end ContentFilter.Unicode
