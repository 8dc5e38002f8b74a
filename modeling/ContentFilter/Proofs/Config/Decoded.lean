import ContentFilter.Config.Record
import ContentFilter.Proofs.IdSpace.Bands
import ContentFilter.Proofs.Json.Decoding
import ContentFilter.Proofs.ResourceType.Names

/-!
# Settings that were decoded

What the reading of settings checks, and what it brings about by itself.  Settings that are missing have
their standard values, which are no worse than those that are read.
-/

namespace ContentFilter

open FieldsDecoder Decoder

/-- Settings as they come out of a record: the bands make up a table, their bounds fit their words, and
the default types have names. -/
structure CompilerConfig.WellFormed (config : CompilerConfig) : Prop where
  bands : IdSpace.Valid config.idSpace.ranges
  bounded : ∀ range ∈ config.idSpace.ranges, range.stop < UInt32.size
  known : config.defaultTypes.Known

/-- The end of a band that was decoded fits its word. -/
theorem IdRange.stop_lt_of_decoder {json : Json} {range : IdRange}
    (decoded : decoder json = .ok range) : range.stop < UInt32.size := by
  obtain ⟨source, whole⟩ := toDecoder_eq_ok decoded
  obtain ⟨upToStart, stop, inner, last, same⟩ := seq_eq_ok whole
  obtain ⟨upToCategory, start, outer, -, rfl⟩ := seq_eq_ok inner
  obtain ⟨category, -, rfl⟩ := map_eq_ok outer
  obtain ⟨stopJson, read⟩ := required_eq_ok last
  rw [← same]
  exact natural32_eq_ok read

/-- A table that was decoded was accepted, and its bounds fit their words. -/
theorem IdSpace.valid_of_decoder {json : Json} {space : IdSpace}
    (decoded : decoder json = .ok space) :
    Valid space.ranges ∧ ∀ range ∈ space.ranges, range.stop < UInt32.size := by
  obtain ⟨ranges, listed, checked⟩ := exists_of_bind_eq_ok decoded
  have accepted : ofRanges ranges = .ok space := by
    cases made : ofRanges ranges with
    | error cause =>
      rw [made] at checked
      cases checked
    | ok other =>
      rw [made] at checked
      cases checked
      rfl
  have same : space.ranges = ranges := by
    unfold ofRanges at accepted
    split at accepted
    · cases accepted
    · split at accepted
      · cases accepted
      · cases accepted
        rfl
  refine ⟨valid_of_ofRanges accepted, fun range member => ?_⟩
  rw [same] at member
  obtain ⟨item, read⟩ := list_eq_ok listed range member
  exact IdRange.stop_lt_of_decoder read

/-- The built-in bands make up a table. -/
theorem IdSpace.valid_builtIn : Valid builtIn.ranges :=
  valid_of_ofRanges (rfl : ofRanges builtIn.ranges = .ok builtIn)

namespace CompilerConfig

theorem wellFormed_standard : standard.WellFormed :=
  ⟨IdSpace.valid_builtIn, by decide, ResourceTypes.known_common⟩

/-- Settings that were decoded are well-formed, whatever they leave out. -/
theorem wellFormed_of_decoder {json : Json} {config : CompilerConfig}
    (decoded : decoder json = .ok config) : config.WellFormed := by
  obtain ⟨source, whole⟩ := toDecoder_eq_ok decoded
  obtain ⟨upToSpace, types, inner, third, rfl⟩ := seq_eq_ok whole
  obtain ⟨upToCeiling, space, outer, second, rfl⟩ := seq_eq_ok inner
  obtain ⟨ceiling, -, rfl⟩ := map_eq_ok outer
  have table : IdSpace.Valid space.ranges ∧ ∀ range ∈ space.ranges, range.stop < UInt32.size := by
    rcases defaulted_eq_ok second with ⟨value, read⟩ | rfl
    · exact IdSpace.valid_of_decoder read
    · exact ⟨wellFormed_standard.bands, wellFormed_standard.bounded⟩
  have known : types.Known := by
    rcases defaulted_eq_ok third with ⟨value, read⟩ | rfl
    · exact ResourceTypes.known_settingDecoder read
    · exact wellFormed_standard.known
  exact ⟨table.1, table.2, known⟩

end CompilerConfig

end ContentFilter
