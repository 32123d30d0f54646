import PsCore.Library.UpperCase

/-!
Lower case, by the full mapping of Unicode. One character looks at its neighbours: a capital
sigma that ends a word has a form of its own. Which do is left open.
-/

namespace LowerCase

open UpperCase

def runs : List Run :=
  [⟨0xC0, 0xD6, 1, 0xE0⟩, ⟨0xD8, 0xDE, 1, 0xF8⟩, ⟨0x100, 0x12E, 2, 0x101⟩, ⟨0x132, 0x136, 2, 0x133⟩,
  ⟨0x139, 0x147, 2, 0x13A⟩, ⟨0x14A, 0x176, 2, 0x14B⟩, ⟨0x178, 0x178, 1, 0xFF⟩, ⟨0x179, 0x17D, 2, 0x17A⟩,
  ⟨0x181, 0x181, 1, 0x253⟩, ⟨0x182, 0x184, 2, 0x183⟩, ⟨0x186, 0x186, 1, 0x254⟩, ⟨0x187, 0x18B, 4, 0x188⟩,
  ⟨0x189, 0x18A, 1, 0x256⟩, ⟨0x18E, 0x18E, 1, 0x1DD⟩, ⟨0x18F, 0x18F, 1, 0x259⟩, ⟨0x190, 0x190, 1, 0x25B⟩,
  ⟨0x191, 0x191, 1, 0x192⟩, ⟨0x193, 0x193, 1, 0x260⟩, ⟨0x194, 0x194, 1, 0x263⟩, ⟨0x196, 0x196, 1, 0x269⟩,
  ⟨0x197, 0x197, 1, 0x268⟩, ⟨0x198, 0x198, 1, 0x199⟩, ⟨0x19C, 0x19C, 1, 0x26F⟩, ⟨0x19D, 0x19D, 1, 0x272⟩,
  ⟨0x19F, 0x19F, 1, 0x275⟩, ⟨0x1A0, 0x1A4, 2, 0x1A1⟩, ⟨0x1A6, 0x1A6, 1, 0x280⟩, ⟨0x1A7, 0x1A7, 1, 0x1A8⟩,
  ⟨0x1A9, 0x1A9, 1, 0x283⟩, ⟨0x1AC, 0x1AC, 1, 0x1AD⟩, ⟨0x1AE, 0x1AE, 1, 0x288⟩, ⟨0x1AF, 0x1B3, 4, 0x1B0⟩,
  ⟨0x1B1, 0x1B2, 1, 0x28A⟩, ⟨0x1B5, 0x1B5, 1, 0x1B6⟩, ⟨0x1B7, 0x1B7, 1, 0x292⟩, ⟨0x1B8, 0x1BC, 4, 0x1B9⟩,
  ⟨0x1C4, 0x1C4, 1, 0x1C6⟩, ⟨0x1C5, 0x1C5, 1, 0x1C6⟩, ⟨0x1C7, 0x1C7, 1, 0x1C9⟩, ⟨0x1C8, 0x1C8, 1, 0x1C9⟩,
  ⟨0x1CA, 0x1CA, 1, 0x1CC⟩, ⟨0x1CB, 0x1DB, 2, 0x1CC⟩, ⟨0x1DE, 0x1EE, 2, 0x1DF⟩, ⟨0x1F1, 0x1F1, 1, 0x1F3⟩,
  ⟨0x1F2, 0x1F4, 2, 0x1F3⟩, ⟨0x1F6, 0x1F6, 1, 0x195⟩, ⟨0x1F7, 0x1F7, 1, 0x1BF⟩, ⟨0x1F8, 0x21E, 2, 0x1F9⟩,
  ⟨0x220, 0x220, 1, 0x19E⟩, ⟨0x222, 0x232, 2, 0x223⟩, ⟨0x23A, 0x23A, 1, 0x2C65⟩, ⟨0x23B, 0x23B, 1, 0x23C⟩,
  ⟨0x23D, 0x23D, 1, 0x19A⟩, ⟨0x23E, 0x23E, 1, 0x2C66⟩, ⟨0x241, 0x241, 1, 0x242⟩, ⟨0x243, 0x243, 1, 0x180⟩,
  ⟨0x244, 0x244, 1, 0x289⟩, ⟨0x245, 0x245, 1, 0x28C⟩, ⟨0x246, 0x24E, 2, 0x247⟩, ⟨0x370, 0x372, 2, 0x371⟩,
  ⟨0x376, 0x376, 1, 0x377⟩, ⟨0x37F, 0x37F, 1, 0x3F3⟩, ⟨0x386, 0x386, 1, 0x3AC⟩, ⟨0x388, 0x38A, 1, 0x3AD⟩,
  ⟨0x38C, 0x38C, 1, 0x3CC⟩, ⟨0x38E, 0x38F, 1, 0x3CD⟩, ⟨0x391, 0x3A1, 1, 0x3B1⟩, ⟨0x3A4, 0x3AB, 1, 0x3C4⟩,
  ⟨0x3CF, 0x3CF, 1, 0x3D7⟩, ⟨0x3D8, 0x3EE, 2, 0x3D9⟩, ⟨0x3F4, 0x3F4, 1, 0x3B8⟩, ⟨0x3F7, 0x3F7, 1, 0x3F8⟩,
  ⟨0x3F9, 0x3F9, 1, 0x3F2⟩, ⟨0x3FA, 0x3FA, 1, 0x3FB⟩, ⟨0x3FD, 0x3FF, 1, 0x37B⟩, ⟨0x400, 0x40F, 1, 0x450⟩,
  ⟨0x410, 0x42F, 1, 0x430⟩, ⟨0x460, 0x480, 2, 0x461⟩, ⟨0x48A, 0x4BE, 2, 0x48B⟩, ⟨0x4C0, 0x4C0, 1, 0x4CF⟩,
  ⟨0x4C1, 0x4CD, 2, 0x4C2⟩, ⟨0x4D0, 0x52E, 2, 0x4D1⟩, ⟨0x531, 0x556, 1, 0x561⟩, ⟨0x10A0, 0x10C5, 1, 0x2D00⟩,
  ⟨0x10C7, 0x10C7, 1, 0x2D27⟩, ⟨0x10CD, 0x10CD, 1, 0x2D2D⟩, ⟨0x13A0, 0x13EF, 1, 0xAB70⟩,
  ⟨0x13F0, 0x13F5, 1, 0x13F8⟩, ⟨0x1C90, 0x1CBA, 1, 0x10D0⟩, ⟨0x1CBD, 0x1CBF, 1, 0x10FD⟩,
  ⟨0x1E00, 0x1E94, 2, 0x1E01⟩, ⟨0x1E9E, 0x1E9E, 1, 0xDF⟩, ⟨0x1EA0, 0x1EFE, 2, 0x1EA1⟩,
  ⟨0x1F08, 0x1F0F, 1, 0x1F00⟩, ⟨0x1F18, 0x1F1D, 1, 0x1F10⟩, ⟨0x1F28, 0x1F2F, 1, 0x1F20⟩,
  ⟨0x1F38, 0x1F3F, 1, 0x1F30⟩, ⟨0x1F48, 0x1F4D, 1, 0x1F40⟩, ⟨0x1F59, 0x1F5F, 2, 0x1F51⟩,
  ⟨0x1F68, 0x1F6F, 1, 0x1F60⟩, ⟨0x1F88, 0x1F8F, 1, 0x1F80⟩, ⟨0x1F98, 0x1F9F, 1, 0x1F90⟩,
  ⟨0x1FA8, 0x1FAF, 1, 0x1FA0⟩, ⟨0x1FB8, 0x1FB9, 1, 0x1FB0⟩, ⟨0x1FBA, 0x1FBB, 1, 0x1F70⟩,
  ⟨0x1FBC, 0x1FBC, 1, 0x1FB3⟩, ⟨0x1FC8, 0x1FCB, 1, 0x1F72⟩, ⟨0x1FCC, 0x1FCC, 1, 0x1FC3⟩,
  ⟨0x1FD8, 0x1FD9, 1, 0x1FD0⟩, ⟨0x1FDA, 0x1FDB, 1, 0x1F76⟩, ⟨0x1FE8, 0x1FE9, 1, 0x1FE0⟩,
  ⟨0x1FEA, 0x1FEB, 1, 0x1F7A⟩, ⟨0x1FEC, 0x1FEC, 1, 0x1FE5⟩, ⟨0x1FF8, 0x1FF9, 1, 0x1F78⟩,
  ⟨0x1FFA, 0x1FFB, 1, 0x1F7C⟩, ⟨0x1FFC, 0x1FFC, 1, 0x1FF3⟩, ⟨0x2126, 0x2126, 1, 0x3C9⟩,
  ⟨0x212A, 0x212A, 1, 0x6B⟩, ⟨0x212B, 0x212B, 1, 0xE5⟩, ⟨0x2132, 0x2132, 1, 0x214E⟩,
  ⟨0x2160, 0x216F, 1, 0x2170⟩, ⟨0x2183, 0x2183, 1, 0x2184⟩, ⟨0x24B6, 0x24CF, 1, 0x24D0⟩,
  ⟨0x2C00, 0x2C2F, 1, 0x2C30⟩, ⟨0x2C60, 0x2C60, 1, 0x2C61⟩, ⟨0x2C62, 0x2C62, 1, 0x26B⟩,
  ⟨0x2C63, 0x2C63, 1, 0x1D7D⟩, ⟨0x2C64, 0x2C64, 1, 0x27D⟩, ⟨0x2C67, 0x2C6B, 2, 0x2C68⟩,
  ⟨0x2C6D, 0x2C6D, 1, 0x251⟩, ⟨0x2C6E, 0x2C6E, 1, 0x271⟩, ⟨0x2C6F, 0x2C6F, 1, 0x250⟩,
  ⟨0x2C70, 0x2C70, 1, 0x252⟩, ⟨0x2C72, 0x2C72, 1, 0x2C73⟩, ⟨0x2C75, 0x2C75, 1, 0x2C76⟩,
  ⟨0x2C7E, 0x2C7F, 1, 0x23F⟩, ⟨0x2C80, 0x2CE2, 2, 0x2C81⟩, ⟨0x2CEB, 0x2CED, 2, 0x2CEC⟩,
  ⟨0x2CF2, 0x2CF2, 1, 0x2CF3⟩, ⟨0xA640, 0xA66C, 2, 0xA641⟩, ⟨0xA680, 0xA69A, 2, 0xA681⟩,
  ⟨0xA722, 0xA76E, 4, 0xA723⟩, ⟨0xA724, 0xA72C, 4, 0xA725⟩, ⟨0xA734, 0xA76C, 4, 0xA735⟩,
  ⟨0xA779, 0xA77B, 2, 0xA77A⟩, ⟨0xA77D, 0xA77D, 1, 0x1D79⟩, ⟨0xA77E, 0xA786, 2, 0xA77F⟩,
  ⟨0xA78B, 0xA78B, 1, 0xA78C⟩, ⟨0xA78D, 0xA78D, 1, 0x265⟩, ⟨0xA790, 0xA792, 2, 0xA791⟩,
  ⟨0xA796, 0xA7A8, 2, 0xA797⟩, ⟨0xA7AA, 0xA7AE, 4, 0x266⟩, ⟨0xA7AB, 0xA7AB, 1, 0x25C⟩,
  ⟨0xA7AC, 0xA7AC, 1, 0x261⟩, ⟨0xA7AD, 0xA7AD, 1, 0x26C⟩, ⟨0xA7B0, 0xA7B0, 1, 0x29E⟩,
  ⟨0xA7B1, 0xA7B1, 1, 0x287⟩, ⟨0xA7B2, 0xA7B2, 1, 0x29D⟩, ⟨0xA7B3, 0xA7B3, 1, 0xAB53⟩,
  ⟨0xA7B4, 0xA7C2, 2, 0xA7B5⟩, ⟨0xA7C4, 0xA7C4, 1, 0xA794⟩, ⟨0xA7C5, 0xA7C5, 1, 0x282⟩,
  ⟨0xA7C6, 0xA7C6, 1, 0x1D8E⟩, ⟨0xA7C7, 0xA7C9, 2, 0xA7C8⟩, ⟨0xA7D0, 0xA7D0, 1, 0xA7D1⟩,
  ⟨0xA7D6, 0xA7D8, 2, 0xA7D7⟩, ⟨0xA7F5, 0xA7F5, 1, 0xA7F6⟩, ⟨0xFF21, 0xFF3A, 1, 0xFF41⟩,
  ⟨0x10400, 0x10427, 1, 0x10428⟩, ⟨0x104B0, 0x104D3, 1, 0x104D8⟩, ⟨0x10570, 0x10594, 2, 0x10597⟩,
  ⟨0x10571, 0x10595, 4, 0x10598⟩, ⟨0x10573, 0x10577, 4, 0x1059A⟩, ⟨0x1057F, 0x10587, 4, 0x105A6⟩,
  ⟨0x1058F, 0x1058F, 1, 0x105B6⟩, ⟨0x10C80, 0x10CB2, 1, 0x10CC0⟩, ⟨0x118A0, 0x118BF, 1, 0x118C0⟩,
  ⟨0x16E40, 0x16E5F, 1, 0x16E60⟩, ⟨0x1E900, 0x1E921, 1, 0x1E922⟩]

def lowerCodes (final : Bool) (code : Nat) : List Nat :=
  if code = 0x3A3 then [if final then 0x3C2 else 0x3C3]
  else if code = 0x130 then [0x69, 0x307]
  else match runs.find? (·.covers code) with
    | some run => [run.apply code]
    | none => [code]

def lowerCharacter (final : Bool) (character : Char) : List Char :=
  if character.toNat < 0x80 then [character.toLower]
  else (lowerCodes final character.toNat).map Char.ofNat

/-- `endsWord` is asked about what stands before a character, nearest first, and about what follows it. -/
def lowerAfter (endsWord : List Char → List Char → Bool) (before : List Char) : List Char → List Char
  | [] => []
  | character :: rest =>
    lowerCharacter (endsWord before rest) character ++ lowerAfter endsWord (character :: before) rest

/-- `str.lower`. -/
def lower (endsWord : List Char → List Char → Bool) (text : String) : String :=
  String.ofList (lowerAfter endsWord [] text.toList)

example : lower (fun _ rest => rest.isEmpty) "AB-12" = "ab-12" ∧
    lower (fun _ rest => rest.isEmpty) "KÉΣΣ" = "kéσς" := by decide +kernel

/-! What the mapping changes, and what it gives. -/

def capitals : Run where
  first := 0x41
  last := 0x5A
  stride := 1
  target := 0x61

def changed : List Nat :=
  0x3A3 :: 0x130 :: (capitals.codes ++ runs.flatMap Run.codes)

def images : List Nat :=
  [0x3C2, 0x3C3, 0x69, 0x307] ++ (capitals.codes.map capitals.apply ++ runs.flatMap fun run => run.codes.map run.apply)

theorem images_valid : images.all (fun code => decide code.isValidChar) = true := by decide +kernel

theorem toLower_ascii :
    (List.range 0x80).all (fun code => capitals.covers code && capitals.apply code == (Char.ofNat code).toLower.toNat ||
      Char.ofNat code == (Char.ofNat code).toLower) = true := by
  decide +kernel

theorem toLower_cases {character : Char} (ascii : character.toNat < 0x80) :
    character.toLower.toNat ∈ images ∧ character.toNat ∈ changed ∨ character.toLower = character := by
  have checked := List.all_eq_true.mp toLower_ascii character.toNat (List.mem_range.mpr ascii)
  simp only [Char.ofNat_toNat, Bool.or_eq_true, Bool.and_eq_true, beq_iff_eq] at checked
  rcases checked with ⟨covered, image⟩ | same
  · have isCapital := Run.mem_codes covered
    refine .inl ⟨?_, ?_⟩
    · rw [← image]
      exact List.mem_append_right _ (List.mem_append_left _ (List.mem_map_of_mem isCapital))
    · exact List.mem_cons_of_mem _ (List.mem_cons_of_mem _ (List.mem_append_left _ isCapital))
  · exact .inr same.symm

theorem lowerCodes_cases (final : Bool) (code : Nat) :
    lowerCodes final code = [code] ∨ code ∈ changed ∧ ∀ result ∈ lowerCodes final code, result ∈ images := by
  unfold lowerCodes
  split
  · rename_i isSigma
    right
    refine ⟨isSigma ▸ List.mem_cons_self, fun result member => ?_⟩
    rw [List.mem_singleton.mp member]
    cases final <;> simp [images]
  · split
    · rename_i isDotted
      right
      refine ⟨isDotted ▸ List.mem_cons_of_mem _ List.mem_cons_self, fun result member => ?_⟩
      rw [List.mem_cons, List.mem_singleton] at member
      rcases member with rfl | rfl <;> simp [images]
    · split
      · rename_i run found
        right
        have isRun := List.mem_of_find?_eq_some found
        have covered : run.covers code = true := by simpa using List.find?_some found
        have isCode := Run.mem_codes covered
        refine ⟨?_, fun result member => ?_⟩
        · exact List.mem_cons_of_mem _ (List.mem_cons_of_mem _
            (List.mem_append_right _ (List.mem_flatMap.mpr ⟨run, isRun, isCode⟩)))
        · rw [List.mem_singleton.mp member]
          exact List.mem_append_right _ (List.mem_append_right _
            (List.mem_flatMap.mpr ⟨run, isRun, List.mem_map_of_mem isCode⟩))
      · exact .inl rfl

theorem lowerCharacter_cases (final : Bool) (character : Char) :
    lowerCharacter final character = [character] ∨
      character.toNat ∈ changed ∧ ∀ result ∈ lowerCharacter final character, result.toNat ∈ images := by
  unfold lowerCharacter
  split
  · rename_i ascii
    rcases toLower_cases ascii with ⟨image, isChanged⟩ | same
    · refine .inr ⟨isChanged, fun result member => ?_⟩
      rw [List.mem_singleton.mp member]
      exact image
    · exact .inl (by rw [same])
  · rcases lowerCodes_cases final character.toNat with same | ⟨isChanged, given⟩
    · rw [same, List.map_singleton, Char.ofNat_toNat]
      exact .inl rfl
    · refine .inr ⟨isChanged, fun result member => ?_⟩
      obtain ⟨code, isResult, rfl⟩ := List.mem_map.mp member
      have image := given code isResult
      rw [toNat_ofNat (of_decide_eq_true (List.all_eq_true.mp images_valid code image))]
      exact image

theorem lowerCharacter_unchanged {character : Char} (same : character.toNat ∉ changed) (final : Bool) :
    lowerCharacter final character = [character] :=
  (lowerCharacter_cases final character).resolve_right fun given => same given.1

theorem lowerAfter_unchanged (endsWord : List Char → List Char → Bool) {text : List Char}
    (same : ∀ character ∈ text, character.toNat ∉ changed) (before : List Char) :
    lowerAfter endsWord before text = text := by
  induction text generalizing before with
  | nil => rfl
  | cons character rest ih =>
      rw [List.forall_mem_cons] at same
      rw [lowerAfter, lowerCharacter_unchanged same.1, ih same.2, List.singleton_append]

theorem filter_lowerAfter (endsWord : List Char → List Char → Bool) {kind : Char → Bool}
    (unchanged : ∀ character, kind character = true → character.toNat ∉ changed)
    (ungiven : ∀ character, kind character = true → character.toNat ∉ images) (before text : List Char) :
    (lowerAfter endsWord before text).filter kind = text.filter kind := by
  induction text generalizing before with
  | nil => rfl
  | cons character rest ih =>
      rw [lowerAfter, List.filter_append, ih, ← List.singleton_append, List.filter_append]
      congr 1
      rcases lowerCharacter_cases (endsWord before rest) character with same | ⟨isChanged, given⟩
      · rw [same]
      · have otherKind : kind character = false := by
          rw [← Bool.not_eq_true]
          exact fun isKind => unchanged character isKind isChanged
        rw [List.filter_eq_nil_iff.mpr fun result member isKind => ungiven result isKind (given result member),
          List.filter_cons, otherKind]
        rfl

end LowerCase
