import PsCore.AuthSystemCore
import PsCore.CheckoutCore
import PsCore.PhoneNumbers
import PsCore.ServiceAreas
import PsCore.Library.LowerCase

/-!
The bucket that a login attempt is counted in. The throttle keeps letters, numerals, dashes and
underscores of what was sent; the logins drop white space only, and customer access keeps the
digits only, so that there one account has as many buckets as there are ways to write between
its ten digits.
-/

namespace PsCore.Auth

open Fallible LowerCase

inductive PhoneLogin
  | otpSend (channel : String) (delivery : Delivery)
  | otpVerify (otp : String)
  | passwordLogin (password channel : String) (delivery : Delivery)
  | customerAccess (name unusable : String)

namespace PhoneLogin

def scope : PhoneLogin → String
  | .otpSend _ _ => "otp_send_phone"
  | .otpVerify _ => "otp_verify_phone"
  | .passwordLogin _ _ _ | .customerAccess _ _ => "login_phone"

def reading : PhoneLogin → Reading
  | .otpSend _ _ | .otpVerify _ | .passwordLogin _ _ _ => .direct
  | .customerAccess _ _ => .customerAccess

def request (phoneNumber : String) : PhoneLogin → AuthRequest
  | .otpSend channel delivery => .sendLoginOtp phoneNumber channel delivery
  | .otpVerify otp => .authenticateWithOtp phoneNumber otp
  | .passwordLogin password channel delivery => .authenticateWithPassword phoneNumber password channel delivery
  | .customerAccess name unusable => .authenticateCustomerAccess name phoneNumber unusable

end PhoneLogin

/-- The serializers' `CharField`, which trims. -/
def phoneField (text : String) : Except AuthError String := do
  require (strip text ≠ "") (.fieldValidation "phone_number" "This field may not be blank.")
  require (Char.ofNat 0 ∉ (strip text).toList) (.fieldValidation "phone_number" "Null characters are not allowed.")
  pure (strip text)

def PhoneLogin.resolve (login : PhoneLogin) (text : String) : Except AuthError String := do
  let value ← phoneField text
  login.reading.resolve value

def PhoneLogin.post (settings : Settings) (now : Instant) (login : PhoneLogin) (text : String) :
    Except AuthError (AuthProgram Reply) := do
  let value ← phoneField text
  pure (handle settings now (login.request value))

/-- `isLetter` says which characters beyond ASCII are letters or numerals. -/
structure ThrottleSettings where
  secretKey : String
  sha256 : List (Fin 256) → List (Fin 256)
  endsWord : List Char → List Char → Bool
  isLetter : Char → Bool

namespace ThrottleSettings

variable (throttle : ThrottleSettings)

def isAlnum (character : Char) : Bool :=
  if character.toNat < 0x80 then character.isAlphanum
  else isDigit character || (throttle.isLetter character && !isSpace character)

def keeps (character : Char) : Bool :=
  throttle.isAlnum character || ['-', '_'].contains character

def normalized (text : String) : List Char :=
  (lower throttle.endsWord text).toList.filter throttle.keeps

def message (text : String) : List (Fin 256) :=
  utf8 (throttle.secretKey.toList ++ ':' :: throttle.normalized text)

def opaqueIdentifier (text : String) : String :=
  if throttle.normalized text = [] then "missing" else hexdigest (throttle.sha256 (throttle.message text))

/-- `RequestIdentifierThrottle.get_cache_key`, for the value under `phone_number`. -/
def getCacheKey (login : PhoneLogin) (value : Option String) : String :=
  "throttle_" ++ login.scope ++ "_" ++ throttle.opaqueIdentifier (value.getD "")

/-- The letters, dashes, underscores and numerals other than digits, in lower case: before, between and after the
digits. -/
def marks (text : String) : List (List Char) :=
  ((lower throttle.endsWord text).toList.splitOnP isDigit).map (List.filter throttle.keeps)

end ThrottleSettings

section

variable {throttle : ThrottleSettings} {text : String}

theorem filter_dropWhile {kind : Char → Bool}
    (unspaced : ∀ character, kind character = true → isSpace character = false)
    (text : List Char) : (text.dropWhile isSpace).filter kind = text.filter kind := by
  induction text with
  | nil => rfl
  | cons character rest ih =>
      rw [List.dropWhile_cons]
      split
      · rename_i space
        have otherKind : ¬ kind character = true := by
          intro isKind
          rw [unspaced character isKind] at space
          cases space
        rw [ih, List.filter_cons_of_neg otherKind]
      · rfl

theorem filter_strip {kind : Char → Bool} (unspaced : ∀ character, kind character = true → isSpace character = false) :
    (strip text).toList.filter kind = text.toList.filter kind := by
  rw [strip, String.toList_ofList, List.filter_reverse, filter_dropWhile unspaced, ← List.filter_reverse,
    List.reverse_reverse, filter_dropWhile unspaced]

theorem phoneDigits_strip : phoneDigits (strip text) = phoneDigits text :=
  filter_strip fun _ => digit_not_space

theorem withoutSpaces_strip : withoutSpaces (strip text) = withoutSpaces text := by
  rw [withoutSpaces, withoutSpaces, filter_strip]
  intro character isKind
  rwa [Bool.not_eq_true'] at isKind

theorem caseless_unchanged :
    UpperCase.mask (0x2B :: (digitCodes ++ spaces)) &&& UpperCase.mask LowerCase.changed = 0 := by
  decide +kernel

theorem digitCodes_not_images : UpperCase.mask digitCodes &&& UpperCase.mask LowerCase.images = 0 := by
  decide +kernel

theorem digit_unchanged {character : Char} (digit : isDigit character = true) :
    character.toNat ∉ LowerCase.changed :=
  UpperCase.not_mem_of_mask caseless_unchanged
    (List.mem_cons_of_mem _ (List.mem_append_left _ (mem_digitCodes digit)))

theorem space_unchanged {character : Char} (space : isSpace character = true) :
    character.toNat ∉ LowerCase.changed :=
  UpperCase.not_mem_of_mask caseless_unchanged
    (List.mem_cons_of_mem _ (List.mem_append_right _ (mem_spaces space)))

theorem plus_unchanged : '+'.toNat ∉ LowerCase.changed :=
  UpperCase.not_mem_of_mask caseless_unchanged List.mem_cons_self

theorem digit_not_image {character : Char} (digit : isDigit character = true) :
    character.toNat ∉ LowerCase.images :=
  UpperCase.not_mem_of_mask digitCodes_not_images (mem_digitCodes digit)

theorem digitCodes_alphanum :
    digitCodes.all (fun code => decide (code < 0x80) → (Char.ofNat code).isAlphanum) = true := by
  decide +kernel

theorem spaces_not_alphanum : spaces.all (fun code => decide (code < 0x80) → !(Char.ofNat code).isAlphanum) = true := by
  decide +kernel

theorem digit_keeps {character : Char} (digit : isDigit character = true) : throttle.keeps character = true := by
  have checked := List.all_eq_true.mp digitCodes_alphanum character.toNat (mem_digitCodes digit)
  rw [Char.ofNat_toNat, decide_eq_true_eq] at checked
  rw [ThrottleSettings.keeps, ThrottleSettings.isAlnum]
  split
  · rename_i ascii
    rw [checked (decide_eq_true ascii), Bool.true_or]
  · rw [digit, Bool.true_or, Bool.true_or]

theorem space_not_keeps {character : Char} (space : isSpace character = true) : throttle.keeps character = false := by
  have checked := List.all_eq_true.mp spaces_not_alphanum character.toNat (mem_spaces space)
  rw [Char.ofNat_toNat, decide_eq_true_eq] at checked
  have notAlnum : throttle.isAlnum character = false := by
    rw [ThrottleSettings.isAlnum]
    split
    · rename_i ascii
      simpa using checked (decide_eq_true ascii)
    · rw [space_not_digit space, space, Bool.not_true, Bool.and_false, Bool.false_or]
  rw [ThrottleSettings.keeps, notAlnum, Bool.false_or]
  rw [← Bool.not_eq_true, List.contains_iff_mem]
  intro member
  simp only [List.mem_cons, List.not_mem_nil, or_false] at member
  rcases member with rfl | rfl
  · exact absurd space (by decide)
  · exact absurd space (by decide)

theorem filter_normalized (throttle : ThrottleSettings) (text : String) :
    (throttle.normalized text).filter isDigit = phoneDigits text := by
  have kept : (fun character => isDigit character && throttle.keeps character) = isDigit := by
    funext character
    cases digit : isDigit character with
    | false => rfl
    | true => rw [digit_keeps digit]; rfl
  rw [ThrottleSettings.normalized, List.filter_filter, kept, lower, String.toList_ofList,
    filter_lowerAfter throttle.endsWord (fun _ => digit_unchanged) (fun _ => digit_not_image)]
  rfl

theorem splitOnP_filter {breaks kind : Char → Bool} (kept : ∀ character, breaks character = true → kind character = true)
    (text : List Char) : (text.filter kind).splitOnP breaks = (text.splitOnP breaks).map (List.filter kind) := by
  induction text with
  | nil => simp
  | cons character rest ih =>
      rw [List.splitOnP_cons_eq_if_modifyHead]
      split
      · rename_i isBreak
        rw [List.filter_cons_of_pos (kept character isBreak), List.splitOnP_cons_eq_if_modifyHead, if_pos isBreak, ih]
        rfl
      · rename_i noBreak
        obtain ⟨first, later, parts⟩ := List.exists_cons_of_ne_nil (List.splitOnP_ne_nil breaks rest)
        rw [parts, List.map_cons] at ih
        rw [parts, List.modifyHead_cons, List.map_cons, List.filter_cons, List.filter_cons]
        split
        · rw [List.splitOnP_cons_eq_if_modifyHead, if_neg noBreak, ih, List.modifyHead_cons]
        · exact ih

theorem marks_eq (throttle : ThrottleSettings) (text : String) :
    throttle.marks text = (throttle.normalized text).splitOnP isDigit :=
  (splitOnP_filter (fun _ => digit_keeps) _).symm

theorem isE164_characters (shaped : isE164 (withoutSpaces text) = true) {character : Char}
    (member : character ∈ text.toList) : isSpace character = true ∨ character = '+' ∨ isDigit character = true := by
  cases space : isSpace character with
  | true => exact .inl rfl
  | false =>
      right
      obtain ⟨first, rest, listed, lower, upper, _, _, digits⟩ := isE164_cases shaped
      have kept : character ∈ (withoutSpaces text).toList := by
        rw [withoutSpaces, String.toList_ofList]
        exact List.mem_filter.mpr ⟨member, by rw [space]; rfl⟩
      rw [listed, List.mem_cons, List.mem_cons] at kept
      rcases kept with plus | isFirst | later
      · exact .inl plus
      · rw [isFirst]
        exact .inr (digitValue_isDigit (digitValue_of_isDigit (isDigit_of_between lower upper)))
      · exact .inr (digitValue_isDigit (digits character later))

theorem normalized_of_isE164 (shaped : isE164 (withoutSpaces text) = true) :
    throttle.normalized text = phoneDigits text := by
  have unchanged : ∀ character ∈ text.toList, character.toNat ∉ LowerCase.changed := by
    intro character member
    rcases isE164_characters shaped member with space | rfl | digit
    · exact space_unchanged space
    · exact plus_unchanged
    · exact digit_unchanged digit
  rw [ThrottleSettings.normalized, lower, String.toList_ofList, lowerAfter_unchanged throttle.endsWord unchanged,
    phoneDigits]
  refine List.filter_congr fun character member => ?_
  rcases isE164_characters shaped member with space | rfl | digit
  · rw [space_not_keeps space, space_not_digit space]
  · rfl
  · rw [digit_keeps digit, digit]

end

/-! Buckets of the logins. -/

section

variable {throttle : ThrottleSettings} {login : PhoneLogin} {first second number : String}

theorem PhoneLogin.resolve_ok : login.resolve first = .ok number ↔
    phoneField first = .ok (strip first) ∧ login.reading.resolve (strip first) = .ok number := by
  simp only [PhoneLogin.resolve, phoneField, accepted_bind, accepted_require, accepted_pure]
  constructor
  · rintro ⟨_, ⟨_, named, _, plain, rfl⟩, resolved⟩
    exact ⟨⟨(), named, (), plain, trivial⟩, resolved⟩
  · rintro ⟨⟨_, named, _, plain, _⟩, resolved⟩
    exact ⟨_, ⟨(), named, (), plain, rfl⟩, resolved⟩

theorem handle_congr (settings : Settings) (now : Instant) {other : String}
    (same : login.reading.resolve first = login.reading.resolve other) :
    handle settings now (login.request first) = handle settings now (login.request other) := by
  cases login with
  | otpSend channel delivery =>
      have normalized : normalizePhoneNumber first = normalizePhoneNumber other := same
      simp only [PhoneLogin.request, handle, sendLoginOtp, normalized]
  | otpVerify otp =>
      have normalized : normalizePhoneNumber first = normalizePhoneNumber other := same
      simp only [PhoneLogin.request, handle, authenticateWithOtp, normalized]
  | passwordLogin password channel delivery =>
      have normalized : normalizePhoneNumber first = normalizePhoneNumber other := same
      simp only [PhoneLogin.request, handle, authenticateWithPassword, normalized]
  | customerAccess name unusable => exact congrArg answering (authenticateCustomerAccess_congr same)

/-- Of the text a login sees nothing but the number. -/
theorem post_congr (settings : Settings) (now : Instant) (resolved : login.resolve first = .ok number)
    (otherResolved : login.resolve second = .ok number) :
    login.post settings now first = login.post settings now second := by
  obtain ⟨accepted, isNumber⟩ := PhoneLogin.resolve_ok.mp resolved
  obtain ⟨otherAccepted, isOther⟩ := PhoneLogin.resolve_ok.mp otherResolved
  rw [PhoneLogin.post, PhoneLogin.post, accepted, otherAccepted]
  exact congrArg Except.ok (handle_congr settings now (isNumber.trans isOther.symm))

/-- Customer access puts the country code before the digits. -/
def PhoneLogin.completes (login : PhoneLogin) (text : String) : Bool :=
  login.reading == .customerAccess && (phoneDigits text).length == 10

theorem resolved_digits (resolved : login.resolve first = .ok number) :
    phoneDigits number = if login.completes first then '9' :: '1' :: phoneDigits first else phoneDigits first := by
  obtain ⟨rfl, _⟩ := normalizePhoneNumber_ok.mp (PhoneLogin.resolve_ok.mp resolved).2
  rw [phoneDigits_withoutSpaces, phoneDigits_dialled, phoneDigits_strip]
  simp only [PhoneLogin.completes, Bool.and_eq_true, beq_iff_eq]

theorem normalized_of_resolve (resolved : login.resolve first = .ok number)
    (asWritten : login.completes first = false) :
    throttle.normalized first = phoneDigits first := by
  obtain ⟨rfl, shaped⟩ := normalizePhoneNumber_ok.mp (PhoneLogin.resolve_ok.mp resolved).2
  have dialled : login.reading.dialled (strip first) = strip first := by
    simp only [PhoneLogin.completes, Bool.and_eq_false_iff, beq_eq_false_iff_ne] at asWritten
    cases reading : login.reading with
    | direct => rfl
    | customerAccess =>
        have notTen := asWritten.resolve_left fun other => other reading
        rw [← phoneDigits_strip] at notTen
        rw [Reading.dialled, if_neg notTen]
  rw [dialled, withoutSpaces_strip] at shaped
  exact normalized_of_isE164 shaped

theorem normalized_apart (resolved : login.resolve first = .ok number)
    (otherResolved : login.resolve second = .ok number) (completed : login.completes first = true)
    (asWritten : login.completes second = false) : throttle.normalized first ≠ throttle.normalized second := by
  intro same
  have digits := resolved_digits otherResolved
  rw [resolved_digits resolved, if_pos completed, asWritten, if_neg Bool.false_ne_true] at digits
  have sameDigits : phoneDigits first = phoneDigits second := by
    rw [← filter_normalized throttle first, same, filter_normalized]
  rw [← sameDigits] at digits
  have lengths := congrArg List.length digits
  simp only [List.length_cons] at lengths
  omega

theorem normalized_eq_iff (resolved : login.resolve first = .ok number)
    (otherResolved : login.resolve second = .ok number) :
    throttle.normalized first = throttle.normalized second ↔
      login.completes first = login.completes second ∧
        (login.completes first = true → throttle.marks first = throttle.marks second) := by
  have digits := (resolved_digits resolved).symm.trans (resolved_digits otherResolved)
  cases completed : login.completes first with
  | true =>
      cases otherCompleted : login.completes second with
      | true =>
          rw [completed, otherCompleted, if_pos rfl, if_pos rfl] at digits
          have sameDigits : phoneDigits first = phoneDigits second := by simpa using digits
          constructor
          · intro same
            exact ⟨rfl, fun _ => by rw [marks_eq, marks_eq, same]⟩
          · rintro ⟨_, marks⟩
            -- the digits and what stands between them make up the text
            have sameMarks := marks rfl
            rw [marks_eq, marks_eq] at sameMarks
            rw [← List.splitOnP_spec (throttle.normalized first), sameMarks, filter_normalized, sameDigits,
              ← filter_normalized throttle second, List.splitOnP_spec]
      | false =>
          refine iff_of_false (normalized_apart resolved otherResolved completed otherCompleted) ?_
          rintro ⟨⟨⟩, _⟩
  | false =>
      cases otherCompleted : login.completes second with
      | true =>
          refine iff_of_false (normalized_apart otherResolved resolved otherCompleted completed).symm ?_
          rintro ⟨⟨⟩, _⟩
      | false =>
          rw [completed, otherCompleted, if_neg Bool.false_ne_true, if_neg Bool.false_ne_true] at digits
          rw [normalized_of_resolve resolved completed, normalized_of_resolve otherResolved otherCompleted]
          exact iff_of_true digits ⟨rfl, fun completes => absurd completes Bool.false_ne_true⟩

theorem phoneDigits_ne_nil (shaped : isE164 number = true) : phoneDigits number ≠ [] := by
  obtain ⟨leading, rest, listed, lower, upper, _⟩ := isE164_cases shaped
  have digit := digitValue_isDigit (digitValue_of_isDigit (isDigit_of_between lower upper))
  have member : leading ∈ phoneDigits number := by
    rw [phoneDigits, List.mem_filter, listed]
    exact ⟨by simp, digit⟩
  exact List.ne_nil_of_mem member

theorem normalized_ne_nil (resolved : login.resolve first = .ok number) : throttle.normalized first ≠ [] := by
  intro none
  have noDigits : phoneDigits first = [] := by
    rw [← filter_normalized throttle first, none]
    rfl
  have digits := resolved_digits resolved
  have asWritten : login.completes first = false := by
    rw [PhoneLogin.completes, noDigits]
    exact Bool.and_false _
  rw [asWritten, if_neg Bool.false_ne_true, noDigits] at digits
  exact phoneDigits_ne_nil (normalizePhoneNumber_ok.mp (PhoneLogin.resolve_ok.mp resolved).2).2 digits

def ThrottleSettings.Apart (throttle : ThrottleSettings) (first second : String) : Prop :=
  throttle.sha256 (throttle.message first) = throttle.sha256 (throttle.message second) →
    throttle.message first = throttle.message second

theorem opaqueIdentifier_eq_iff (apart : throttle.Apart first second) (resolved : login.resolve first = .ok number)
    (otherResolved : login.resolve second = .ok number) :
    throttle.opaqueIdentifier first = throttle.opaqueIdentifier second ↔
      throttle.normalized first = throttle.normalized second := by
  rw [ThrottleSettings.opaqueIdentifier, ThrottleSettings.opaqueIdentifier, if_neg (normalized_ne_nil resolved),
    if_neg (normalized_ne_nil otherResolved)]
  constructor
  · intro same
    have characters := utf8_injective (apart (hexdigest_injective same))
    simpa using characters
  · intro same
    rw [ThrottleSettings.message, same, ← ThrottleSettings.message]

/-- Two texts that a login takes for one number fall into one bucket unless customer access completes one of them and
not the other, or completes both and finds other marks between their digits. -/
theorem getCacheKey_eq_iff (apart : throttle.Apart first second) (resolved : login.resolve first = .ok number)
    (otherResolved : login.resolve second = .ok number) :
    throttle.getCacheKey login (some first) = throttle.getCacheKey login (some second) ↔
      login.completes first = login.completes second ∧
        (login.completes first = true → throttle.marks first = throttle.marks second) := by
  rw [← normalized_eq_iff resolved otherResolved, ← opaqueIdentifier_eq_iff apart resolved otherResolved]
  simp only [ThrottleSettings.getCacheKey, Option.getD_some, String.append_right_inj]

end

def sampleThrottle : ThrottleSettings where
  secretKey := "secret"
  sha256 := fun message =>
    let bytes := if message = utf8 "secret:9876543210".toList then
      [134, 38, 66, 151, 201, 61, 61, 43, 75, 169, 49, 204, 100, 20, 88, 116, 128, 244, 176, 108, 7, 9, 41, 255, 191,
        147, 180, 22, 68, 230, 156, 217]
    else if message = utf8 "secret:98765-43210".toList then
      [182, 141, 141, 81, 23, 116, 160, 252, 33, 157, 254, 194, 23, 208, 17, 161, 193, 5, 114, 232, 11, 240, 118, 2,
        209, 107, 26, 157, 196, 148, 60, 110]
    else
      [255, 209, 66, 115, 128, 105, 123, 248, 201, 108, 117, 99, 142, 248, 174, 139, 72, 245, 201, 64, 46, 116, 4, 20,
        173, 73, 68, 182, 102, 182, 152, 98]
    bytes.filterMap fun byte => if small : byte < 256 then some ⟨byte, small⟩ else none
  endsWord := fun _ _ => false
  isLetter := fun _ => false

theorem getCacheKey_eq_iff_spaced :
    sampleThrottle.getCacheKey (.customerAccess "Asha" "") (some "98765 43210") =
      sampleThrottle.getCacheKey (.customerAccess "Asha" "") (some "(98765) 43210") := by
  have spaced : (PhoneLogin.customerAccess "Asha" "").resolve "98765 43210" = .ok "+919876543210" := by rfl
  have bracketed : (PhoneLogin.customerAccess "Asha" "").resolve "(98765) 43210" = .ok "+919876543210" := by rfl
  refine (getCacheKey_eq_iff ?_ spaced bracketed).mpr (by decide +kernel)
  unfold ThrottleSettings.Apart
  decide +kernel

/-- A dash makes another bucket, and so does the country code. -/
theorem getCacheKey_multiplied :
    (PhoneLogin.customerAccess "Asha" "").resolve "9876543210" = .ok "+919876543210" ∧
    (PhoneLogin.customerAccess "Asha" "").resolve "98765-43210" = .ok "+919876543210" ∧
    (PhoneLogin.customerAccess "Asha" "").resolve "+919876543210" = .ok "+919876543210" ∧
    sampleThrottle.getCacheKey (.customerAccess "Asha" "") (some "9876543210") ≠
      sampleThrottle.getCacheKey (.customerAccess "Asha" "") (some "98765-43210") ∧
    sampleThrottle.getCacheKey (.customerAccess "Asha" "") (some "9876543210") ≠
      sampleThrottle.getCacheKey (.customerAccess "Asha" "") (some "+919876543210") := by
  refine ⟨rfl, rfl, rfl, ?_, ?_⟩
  · decide +kernel
  · decide +kernel

end PsCore.Auth
