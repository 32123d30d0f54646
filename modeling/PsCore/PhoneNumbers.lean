import PsCore.AuthCore

/-!
What becomes of a phone number. It is stored as it was written, white space aside, and customer
access puts the country code before every ten digits; so the digits of another script and a
number of ten digits with its own country code each make a second account.
-/

namespace PsCore.Auth

open Transaction Transaction.Program

def digitCodes : List Nat :=
  digitZeros.flatMap (List.range' · 10) ++
    specialDigits.flatMap fun (first, last) => List.range' first (last + 1 - first)

theorem digitValue_isDigit {character : Char} (decimal : (digitValue character).isSome = true) :
    isDigit character = true := by
  rw [isDigit, decimal, Bool.true_or]

theorem mem_digitCodes {character : Char} (digit : isDigit character = true) : character.toNat ∈ digitCodes := by
  simp only [isDigit, digitValue, Option.isSome_map, List.find?_isSome, Bool.or_eq_true, Bool.and_eq_true,
    List.any_eq_true, decide_eq_true_eq] at digit
  simp only [digitCodes, List.mem_append, List.mem_flatMap, List.mem_range'_1]
  rcases digit with ⟨first, isFirst, lower, upper⟩ | ⟨⟨first, last⟩, isRange, lower, upper⟩
  · exact .inl ⟨first, isFirst, lower, by omega⟩
  · exact .inr ⟨(first, last), isRange, lower, by simp only at upper ⊢; omega⟩

theorem digitCodes_not_spaces : digitCodes.all (fun code => !isSpace (Char.ofNat code)) = true := by
  decide +kernel

theorem digit_not_space {character : Char} (digit : isDigit character = true) : isSpace character = false := by
  have checked := List.all_eq_true.mp digitCodes_not_spaces character.toNat (mem_digitCodes digit)
  rwa [Char.ofNat_toNat, Bool.not_eq_true'] at checked

theorem space_not_digit {character : Char} (space : isSpace character = true) : isDigit character = false := by
  rw [← Bool.not_eq_true]
  intro digit
  rw [digit_not_space digit] at space
  cases space

def asciiDigit (character : Char) : Char :=
  ((digitValue character).map Nat.digitChar).getD character

theorem asciiDigit_ascii :
    (List.range 0x80).all (fun code => asciiDigit (Char.ofNat code) == Char.ofNat code) = true := by
  decide +kernel

theorem asciiDigit_of_isDigit {character : Char} (ascii : character.isDigit = true) :
    asciiDigit character = character := by
  simp only [Char.isDigit, Bool.and_eq_true, decide_eq_true_eq] at ascii
  have small : character.toNat < 0x80 := by
    have upper : character.val.toNat ≤ 57 := ascii.2
    exact Nat.lt_of_le_of_lt upper (by decide)
  have checked := List.all_eq_true.mp asciiDigit_ascii character.toNat (List.mem_range.mpr small)
  rwa [Char.ofNat_toNat, beq_iff_eq] at checked

/-! The number that is stored. -/

def withoutSpaces (text : String) : String :=
  String.ofList (text.toList.filter fun character => !isSpace character)

def phoneDigits (text : String) : List Char :=
  text.toList.filter isDigit

/-- A text is normalised as it is, or customer access looks at its digits first. -/
inductive Reading
  | direct
  | customerAccess
  deriving DecidableEq, Repr

def Reading.dialled : Reading → String → String
  | .direct, text => text
  | .customerAccess, text =>
      if (phoneDigits text).length = 10 then "+91" ++ String.ofList (phoneDigits text) else text

def Reading.resolve (reading : Reading) (text : String) : Except AuthError String :=
  normalizePhoneNumber (reading.dialled text)

section

variable {settings : Settings} {name phoneNumber unusable : String}

theorem authenticateCustomerAccess_congr {other : String}
    (same : Reading.customerAccess.resolve phoneNumber = Reading.customerAccess.resolve other) :
    authenticateCustomerAccess settings name phoneNumber unusable =
      authenticateCustomerAccess settings name other unusable := by
  change atomic (lift (Reading.customerAccess.resolve phoneNumber) >>= _) =
    atomic (lift (Reading.customerAccess.resolve other) >>= _)
  rw [same]

theorem authenticateCustomerAccess_resolves {db next : AuthDb} {login : LoginResult} {events : List AuthEvent}
    (returned : (authenticateCustomerAccess settings name phoneNumber unusable).Returns db login next events) :
    ∃ number, Reading.customerAccess.resolve phoneNumber = .ok number := by
  simp only [authenticateCustomerAccess, returns_atomic, returns_lift_bind] at returned
  obtain ⟨number, resolved, _⟩ := returned
  exact ⟨number, resolved⟩

end

/-- A plus sign and eight to fifteen ASCII digits, the first of which is not zero. -/
def isCanonical (number : String) : Bool :=
  match number.toList with
  | '+' :: first :: rest =>
      first.isDigit && first != '0' && 7 ≤ rest.length && rest.length ≤ 14 && rest.all Char.isDigit
  | _ => false

def denoted (text : String) : String :=
  String.ofList ((withoutSpaces text).toList.map asciiDigit)

structure PhoneLaw (first second firstNumber secondNumber : String) : Prop where
  canonicalFirst : isCanonical firstNumber = true
  canonicalSecond : isCanonical secondNumber = true
  stableFirst : normalizePhoneNumber firstNumber = .ok firstNumber
  stableSecond : normalizePhoneNumber secondNumber = .ok secondNumber
  oneNumber : denoted first = denoted second → firstNumber = secondNumber

def AsciiDigits (text : String) : Prop :=
  ∀ character ∈ text.toList, (digitValue character).isSome = true → character.isDigit = true

instance (text : String) : Decidable (AsciiDigits text) :=
  List.decidableBAll _ text.toList

section

variable {text number : String}

theorem normalizePhoneNumber_ok :
    normalizePhoneNumber text = .ok number ↔ withoutSpaces text = number ∧ isE164 number = true := by
  simp only [normalizePhoneNumber]
  change (if isE164 (withoutSpaces text) = true then _ else _) = _ ↔ _
  split
  · rename_i shaped
    rw [Except.ok.injEq]
    constructor
    · rintro rfl
      exact ⟨rfl, shaped⟩
    · exact And.left
  · rename_i malformed
    constructor
    · intro accepted
      cases accepted
    · rintro ⟨rfl, shaped⟩
      exact (malformed shaped).elim

theorem isE164_cases (shaped : isE164 number = true) :
    ∃ first rest, number.toList = '+' :: first :: rest ∧ '1' ≤ first ∧ first ≤ '9' ∧ 7 ≤ rest.length ∧
      rest.length ≤ 14 ∧ ∀ character ∈ rest, (digitValue character).isSome = true := by
  unfold isE164 at shaped
  split at shaped
  · rename_i first rest listed
    simp only [Bool.and_eq_true, decide_eq_true_eq, List.all_eq_true] at shaped
    obtain ⟨⟨⟨⟨lower, upper⟩, atLeast⟩, atMost⟩, digits⟩ := shaped
    exact ⟨first, rest, listed, lower, upper, atLeast, atMost, digits⟩
  · cases shaped

theorem isDigit_of_between {character : Char} (lower : '1' ≤ character) (upper : character ≤ '9') :
    character.isDigit = true := by
  simp only [Char.isDigit, Bool.and_eq_true, decide_eq_true_eq]
  exact ⟨Nat.le_trans (by decide) lower, upper⟩

theorem digitValue_of_isDigit {character : Char} (ascii : character.isDigit = true) :
    (digitValue character).isSome = true := by
  simp only [Char.isDigit, Bool.and_eq_true, decide_eq_true_eq] at ascii
  rw [digitValue, Option.isSome_map, List.find?_isSome]
  exact ⟨0x30, by decide, by simpa using ⟨ascii.1, ascii.2⟩⟩

theorem normalizePhoneNumber_stored (shaped : isE164 number = true) :
    normalizePhoneNumber number = .ok number := by
  rw [normalizePhoneNumber_ok]
  refine ⟨?_, shaped⟩
  obtain ⟨first, rest, listed, lower, upper, _, _, digits⟩ := isE164_cases shaped
  rw [withoutSpaces, List.filter_eq_self.mpr, String.ofList_toList]
  intro character member
  rw [Bool.not_eq_true']
  rw [listed, List.mem_cons, List.mem_cons] at member
  rcases member with rfl | rfl | member
  · decide
  · exact digit_not_space (digitValue_isDigit (digitValue_of_isDigit (isDigit_of_between lower upper)))
  · exact digit_not_space (digitValue_isDigit (digits character member))

theorem isCanonical_iff (shaped : isE164 number = true) : isCanonical number = true ↔ AsciiDigits number := by
  obtain ⟨first, rest, listed, lower, upper, atLeast, atMost, digits⟩ := isE164_cases shaped
  simp only [isCanonical, AsciiDigits, listed, Bool.and_eq_true, List.all_eq_true, decide_eq_true_eq]
  constructor
  · rintro ⟨_, ascii⟩ character member decimal
    rw [List.mem_cons, List.mem_cons] at member
    rcases member with rfl | rfl | member
    · revert decimal
      decide
    · exact isDigit_of_between lower upper
    · exact ascii character member
  · intro ascii
    refine ⟨⟨⟨⟨isDigit_of_between lower upper, ?_⟩, atLeast⟩, atMost⟩, fun character member => ?_⟩
    · rw [bne_iff_ne]
      rintro rfl
      exact absurd lower (by decide)
    · exact ascii character (by simp [member]) (digits character member)

theorem asciiDigits_withoutSpaces : AsciiDigits (withoutSpaces text) ↔ AsciiDigits text := by
  simp only [AsciiDigits, withoutSpaces, String.toList_ofList, List.mem_filter, Bool.not_eq_true']
  constructor
  · intro ascii character member decimal
    exact ascii character ⟨member, digit_not_space (digitValue_isDigit decimal)⟩ decimal
  · rintro ascii character ⟨member, _⟩ decimal
    exact ascii character member decimal

theorem asciiDigits_dialled (reading : Reading) : AsciiDigits (reading.dialled text) ↔ AsciiDigits text := by
  cases reading with
  | direct => exact Iff.rfl
  | customerAccess =>
      simp only [Reading.dialled]
      split
      · simp only [AsciiDigits, String.toList_append, String.toList_ofList, List.mem_append, phoneDigits,
          List.mem_filter]
        constructor
        · intro ascii character member decimal
          exact ascii character (.inr ⟨member, digitValue_isDigit decimal⟩) decimal
        · rintro ascii character (country | ⟨member, _⟩) decimal
          · have spelled : character = '+' ∨ character = '9' ∨ character = '1' := by simpa using country
            rcases spelled with rfl | rfl | rfl
            · exact absurd decimal (by decide)
            · rfl
            · rfl
          · exact ascii character member decimal
      · exact Iff.rfl

theorem asciiDigit_kept {character : Char} (ascii : (digitValue character).isSome = true → character.isDigit = true) :
    asciiDigit character = character := by
  cases decimal : digitValue character with
  | none => rw [asciiDigit, decimal, Option.map_none, Option.getD_none]
  | some value => exact asciiDigit_of_isDigit (ascii (by rw [decimal]; rfl))

theorem denoted_ascii (ascii : AsciiDigits text) : denoted text = withoutSpaces text := by
  have unchanged : (withoutSpaces text).toList.map asciiDigit = (withoutSpaces text).toList.map id :=
    List.map_congr_left fun character member => asciiDigit_kept (asciiDigits_withoutSpaces.mpr ascii character member)
  rw [denoted, unchanged, List.map_id, String.ofList_toList]

@[simp] theorem phoneDigits_withoutSpaces : phoneDigits (withoutSpaces text) = phoneDigits text := by
  simp only [phoneDigits, withoutSpaces, String.toList_ofList, List.filter_filter]
  refine List.filter_congr fun character _ => ?_
  cases digit : isDigit character with
  | false => rfl
  | true => rw [digit_not_space digit]; rfl

@[simp] theorem withoutSpaces_idem : withoutSpaces (withoutSpaces text) = withoutSpaces text := by
  simp [withoutSpaces]

theorem withoutSpaces_dialled (reading : Reading) :
    withoutSpaces (reading.dialled (withoutSpaces text)) = withoutSpaces (reading.dialled text) := by
  cases reading with
  | direct => exact withoutSpaces_idem
  | customerAccess =>
      simp only [Reading.dialled, phoneDigits_withoutSpaces]
      split
      · rfl
      · exact withoutSpaces_idem

theorem phoneDigits_indian :
    phoneDigits ("+91" ++ String.ofList (phoneDigits text)) = '9' :: '1' :: phoneDigits text := by
  have country : "+91".toList.filter isDigit = ['9', '1'] := by decide
  simp only [phoneDigits, String.toList_append, String.toList_ofList, List.filter_append, List.filter_filter,
    Bool.and_self, country]
  rfl

theorem phoneDigits_dialled (reading : Reading) : phoneDigits (reading.dialled text) =
    if reading = .customerAccess ∧ (phoneDigits text).length = 10 then '9' :: '1' :: phoneDigits text
    else phoneDigits text := by
  cases reading with
  | direct => rfl
  | customerAccess =>
      simp only [Reading.dialled, true_and]
      split
      · exact phoneDigits_indian
      · rfl

end

section

variable {first second : Reading} {text other number otherNumber : String}

theorem canonical_iff (resolved : first.resolve text = .ok number) : isCanonical number = true ↔ AsciiDigits text := by
  obtain ⟨rfl, shaped⟩ := normalizePhoneNumber_ok.mp resolved
  rw [isCanonical_iff shaped, asciiDigits_withoutSpaces, asciiDigits_dialled]

/-- Two texts of one number in ASCII digits are stored alike, unless customer access takes one of them for a number
without its country code and the other is read as it is. -/
theorem sameNumber_iff (resolved : first.resolve text = .ok number)
    (otherResolved : second.resolve other = .ok otherNumber)
    (same : withoutSpaces text = withoutSpaces other) :
    number = otherNumber ↔ (first ≠ second → (phoneDigits text).length ≠ 10) := by
  obtain ⟨rfl, _⟩ := normalizePhoneNumber_ok.mp resolved
  obtain ⟨rfl, _⟩ := normalizePhoneNumber_ok.mp otherResolved
  have sameDigits : phoneDigits text = phoneDigits other := by
    rw [← phoneDigits_withoutSpaces, same, phoneDigits_withoutSpaces]
  by_cases sameReading : first = second
  · subst sameReading
    rw [← withoutSpaces_dialled, same, withoutSpaces_dialled]
    exact iff_of_true rfl fun differ => absurd rfl differ
  by_cases isTen : (phoneDigits text).length = 10
  · refine iff_of_false (fun equal => ?_) fun excluded => excluded sameReading isTen
    -- one of the two has two digits more
    have digits : phoneDigits (first.dialled text) = phoneDigits (second.dialled other) := by
      rw [← phoneDigits_withoutSpaces, equal, phoneDigits_withoutSpaces]
    rw [phoneDigits_dialled, phoneDigits_dialled, ← sameDigits] at digits
    have lengths := congrArg List.length digits
    cases first <;> cases second <;> simp [isTen] at sameReading lengths
  · refine iff_of_true ?_ fun _ => isTen
    have asWritten (reading : Reading) (text : String) (notTen : (phoneDigits text).length ≠ 10) :
        reading.dialled text = text := by
      cases reading with
      | direct => rfl
      | customerAccess => exact if_neg notTen
    rw [asWritten first text isTen, asWritten second other (sameDigits ▸ isTen), same]

/-- Accepted texts keep the law of phone numbers exactly where their decimal digits are ASCII ones and, if both denote
one number, customer access does not take it for ten digits without a country code while it is read as it is
elsewhere. -/
theorem phoneLaw_iff (resolved : first.resolve text = .ok number)
    (otherResolved : second.resolve other = .ok otherNumber) :
    PhoneLaw text other number otherNumber ↔ AsciiDigits text ∧ AsciiDigits other ∧
      (denoted text = denoted other → first ≠ second → (phoneDigits text).length ≠ 10) := by
  constructor
  · intro law
    have ascii := (canonical_iff resolved).mp law.canonicalFirst
    have otherAscii := (canonical_iff otherResolved).mp law.canonicalSecond
    refine ⟨ascii, otherAscii, fun denotes => ?_⟩
    have same : withoutSpaces text = withoutSpaces other := by
      rw [← denoted_ascii ascii, denotes, denoted_ascii otherAscii]
    exact (sameNumber_iff resolved otherResolved same).mp (law.oneNumber denotes)
  · rintro ⟨ascii, otherAscii, excluded⟩
    refine ⟨(canonical_iff resolved).mpr ascii, (canonical_iff otherResolved).mpr otherAscii,
      normalizePhoneNumber_stored (normalizePhoneNumber_ok.mp resolved).2,
      normalizePhoneNumber_stored (normalizePhoneNumber_ok.mp otherResolved).2, fun denotes => ?_⟩
    have same : withoutSpaces text = withoutSpaces other := by
      rw [← denoted_ascii ascii, denotes, denoted_ascii otherAscii]
    exact (sameNumber_iff resolved otherResolved same).mpr (excluded denotes)

theorem phoneLaw_spaced : PhoneLaw "+91 98765 43210" "+919876543210 " "+919876543210" "+919876543210" := by
  have spaced : Reading.direct.resolve "+91 98765 43210" = .ok "+919876543210" := rfl
  have trailing : Reading.customerAccess.resolve "+919876543210 " = .ok "+919876543210" := rfl
  exact (phoneLaw_iff spaced trailing).mpr (by decide +kernel)

/-- Devanagari digits are kept as they are, and ten digits get a country code that they may have already. -/
theorem phoneLaw_broken :
    (Reading.direct.resolve "+9198765432१०" = .ok "+9198765432१०" ∧
      Reading.direct.resolve "+919876543210" = .ok "+919876543210" ∧
      ¬ PhoneLaw "+9198765432१०" "+919876543210" "+9198765432१०" "+919876543210") ∧
    (Reading.direct.resolve "+6591234567" = .ok "+6591234567" ∧
      Reading.customerAccess.resolve "+6591234567" = .ok "+916591234567" ∧
      ¬ PhoneLaw "+6591234567" "+6591234567" "+6591234567" "+916591234567") := by
  refine ⟨⟨rfl, rfl, fun law => absurd law.canonicalFirst (by decide)⟩, rfl, rfl, fun law => ?_⟩
  exact absurd (law.oneNumber rfl) (by decide)

end

end PsCore.Auth
