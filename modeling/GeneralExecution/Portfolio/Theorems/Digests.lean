import GeneralExecution.Objects.Models
import GeneralExecution.Portfolio.Trigger
import GeneralExecution.Primitives.IntLiteral

namespace GeneralExecution

variable {s : String}

-- `sha256:` and 64 digits of base 16, in either case.
def IsHexSha256 (s : String) : Prop :=
  ∃ digits, s.toList = "sha256:".toList ++ digits ∧ digits.length = 64 ∧
    ∀ c ∈ digits, c ∈ Text.hexDigits

-- `sha256:` and an integer literal of 64 characters that are not all digits of base 16: there is
-- white space around it, or a sign, a base, an underscore or a digit from outside ASCII in it.
def IsDecoratedSha256 (s : String) : Prop :=
  ∃ literal : Text.IntLiteral, literal.Decorated ∧ s.toList = "sha256:".toList ++ literal.text ∧
    literal.text.length = 64

theorem isSha256_iff :
    IsSha256 s ↔ ∃ literal : Text.IntLiteral, s.toList = "sha256:".toList ++ literal.text ∧
      literal.text.length = 64 := by
  constructor
  case mp  =>
    intro ⟨⟨digits, hd⟩, hl, hi⟩
    rw [← hd, show 7 = "sha256:".toList.length from rfl, List.drop_left] at hi
    have ⟨literal, ht⟩ := Text.isInt16_iff.mp hi
    refine ⟨literal, by rw [ht, hd], ?_⟩
    rw [← String.length_toList, ← hd, ← ht, List.length_append] at hl
    exact Nat.add_left_cancel (n := 7) hl
  case mpr =>
    intro ⟨literal, hs, hl⟩
    refine ⟨⟨literal.text, hs.symm⟩, ?_, ?_⟩
    case refine_1 =>
      rw [← String.length_toList, hs, List.length_append, hl]
      rfl
    case refine_2 =>
      rw [hs, show 7 = "sha256:".toList.length from rfl, List.drop_left]
      exact literal.isInt16_text

theorem IsHexSha256.isSha256 (h : IsHexSha256 s) : IsSha256 s := by
  have ⟨digits, hs, hl, hd⟩ := h
  have hn : digits ≠ [] := by
    rintro rfl
    cases hl
  have hg := Text.digits_of_hex hd hn
  exact isSha256_iff.mpr ⟨.plain digits hg, by rw [Text.IntLiteral.plain_text, hs],
    by rw [Text.IntLiteral.plain_text, hl]⟩

-- The integer parser and the digits of base 16 differ exactly in the decorated literals.
theorem isSha256_iff_hex : (IsSha256 s ↔ IsHexSha256 s) ↔ ¬IsDecoratedSha256 s := by
  constructor
  case mp  =>
    intro h ⟨literal, hdec, hs, hl⟩
    have ⟨digits, hs', _, hd⟩ := h.mp <| isSha256_iff.mpr ⟨literal, hs, hl⟩
    have ⟨c, hc, hn⟩ := literal.decorated_iff.mp hdec
    rw [List.append_cancel_left <| hs.symm.trans hs'] at hc
    exact hn (hd c hc)
  case mpr =>
    intro h
    refine ⟨fun hs => ?_, IsHexSha256.isSha256⟩
    have ⟨literal, hs, hl⟩ := isSha256_iff.mp hs
    refine ⟨literal.text, hs, hl, fun c hc => ?_⟩
    by_contra hn
    exact h ⟨literal, literal.decorated_iff.mpr ⟨c, hc, hn⟩, hs, hl⟩

-- A digest with its digits in lower case.
def lowerDigits (s : String) : String :=
  .ofList (s.toList.take 7 ++ Text.lower (s.toList.drop 7))

theorem isLowerSha256_lowerDigits : IsLowerSha256 (lowerDigits s) ↔ IsHexSha256 s := by
  constructor
  case mp  =>
    rintro ⟨digits, hs, hl, hd⟩
    rw [lowerDigits, String.toList_ofList] at hs
    by_cases hn : 7 ≤ s.toList.length
    case pos =>
      obtain ⟨htake, hlower⟩ := List.append_inj hs <| by rw [List.length_take_of_le hn]; rfl
      rw [← hlower] at hl hd
      refine ⟨s.toList.drop 7, ?_, ?_, Text.hex_of_lower_all hd⟩
      case refine_1 => rw [← htake, List.take_append_drop]
      case refine_2 => rw [← Text.length_of_lower hd, hl]
    case neg =>
      -- Too short to have any digit.
      have hlen := congrArg List.length hs
      rw [List.drop_of_length_le (by omega), List.length_append, List.length_append, hl] at hlen
      simp [Text.lower] at hlen
      omega
  case mpr =>
    rintro ⟨digits, hs, hl, hd⟩
    obtain ⟨hlength, hmem⟩ := Text.lower_hex hd
    refine ⟨Text.lower digits, ?_, hlength.trans hl, hmem⟩
    rw [lowerDigits, String.toList_ofList, hs, show 7 = "sha256:".toList.length from rfl,
      List.take_left, List.drop_left]

-- The validators that test a prefix and a length and then ask `int`.
inductive DigestValidator
  | artifactRef
  | portfolioState
  | executionCheckpoint

-- The check comes after those of the name and the locator of an artifact.
def DigestValidator.Accepts : DigestValidator → String → Prop
  | .artifactRef, value         => ∃ name uri artifact, ArtifactRef.new name uri value = .ok artifact
  | .portfolioState, value      => ∃ name h, Guard.sha256 .portfolioStateError [(name, value)] = .ok h
  | .executionCheckpoint, value =>
    ∃ name h, Guard.sha256 .executionCheckpointError [(name, value)] = .ok h

-- `external_trigger._digest`
def TriggerAccepts (value : String) : Prop :=
  ∃ name h, checkTriggerDigests [(name, value)] = .ok h

theorem exists_artifact_iff :
    (∃ name uri artifact, ArtifactRef.new name uri s = .ok artifact) ↔ IsSha256 s := by
  constructor
  case mp  =>
    intro ⟨name, uri, artifact, h⟩
    simp only [ArtifactRef.new, Except.bind_eq_ok, Except.pure_eq_ok] at h
    have ⟨_, _, ⟨hd⟩, _⟩ := h
    exact hd
  case mpr =>
    intro h
    have hn : ∀ x ∈ [("artifact.name", "name"), ("artifact.uri", "uri")], ¬Text.Blank x.2 := by
      decide
    exact ⟨_, _, _, ArtifactRef.new_eq ⟨"name", "uri", s, hn, h⟩⟩

theorem exists_sha256_iff {cls : ErrorClass} :
    (∃ name h, Guard.sha256 cls [(name, s)] = .ok h) ↔ IsSha256 s := by
  constructor
  case mp  =>
    intro ⟨name, ⟨h⟩, _⟩
    exact h _ (List.mem_singleton_self _)
  case mpr =>
    intro h
    exact ⟨"digest", _, Guard.sha256_of <| by simpa using h⟩

theorem triggerAccepts_iff : TriggerAccepts s ↔ IsLowerSha256 s := by
  constructor
  case mp  =>
    intro ⟨name, ⟨h⟩, _⟩
    exact h _ (List.mem_singleton_self _)
  case mpr =>
    intro h
    exact ⟨"digest", _, Guard.each_of <| by simpa using h⟩

theorem DigestValidator.accepts_iff (v : DigestValidator) : v.Accepts s ↔ IsSha256 s := by
  cases v
  case artifactRef         => exact exists_artifact_iff
  case portfolioState      => exact exists_sha256_iff
  case executionCheckpoint => exact exists_sha256_iff

-- The validator asks for 64 digits of base 16, and so agrees with the regular expression.
structure DigestGrammar (v : DigestValidator) (s : String) : Prop where
  grammar : v.Accepts s ↔ IsHexSha256 s
  agrees  : v.Accepts s ↔ TriggerAccepts (lowerDigits s)

theorem digestGrammar_iff_accepts {v : DigestValidator} :
    DigestGrammar v s ↔ (IsSha256 s ↔ IsHexSha256 s) := by
  have ha := v.accepts_iff (s := s)
  have ht : TriggerAccepts (lowerDigits s) ↔ IsHexSha256 s :=
    triggerAccepts_iff.trans isLowerSha256_lowerDigits
  constructor
  case mp  =>
    intro h
    exact ha.symm.trans h.grammar
  case mpr =>
    intro h
    have hg := ha.trans h
    exact ⟨hg, hg.trans ht.symm⟩

theorem zeros_digits : Text.Digits (List.replicate 62 '0') :=
  Text.digits_of_hex (by simp; decide) (by simp)

-- `0x` and 62 zeros.
def basedLiteral : Text.IntLiteral := {
  Text.IntLiteral.plain (List.replicate 62 '0') zeros_digits with
  base  := ['0', 'x']
  based := by decide }

def basedDigest : String :=
  "sha256:" ++ .ofList basedLiteral.text

theorem isDecoratedSha256_based : IsDecoratedSha256 basedDigest := by
  refine ⟨basedLiteral, ?_, ?_, ?_⟩
  case refine_1 => simp [Text.IntLiteral.Decorated, basedLiteral]
  case refine_2 => simp [basedDigest]
  case refine_3 => simp [Text.IntLiteral.text, basedLiteral, Text.IntLiteral.plain]

end GeneralExecution
