import OzPos.Library.Calendar
import OzPos.Numbering.NumberSeries
import OzPos.Numbering.ReceiptCode

namespace OzPos

/-- `%y%m%d` of a day. -/
def yymmdd (day : Int) : String :=
  let month := Calendar.monthOf day
  padOrdinal 2 (month / 12 % 100) ++ padOrdinal 2 (month % 12 + 1) ++
    padOrdinal 2 (Calendar.dayOfMonth day)

def yearOfDay (day : Int) : Int := Calendar.monthOf day / 12

/-- `%Y`: four digits, and a sign where they do not do. -/
def yearText (year : Int) : String :=
  if year < 0 then "-" ++ padOrdinal 4 (-year)
  else if year ≤ 9999 then padOrdinal 4 year
  else "+" ++ padOrdinal 4 year

def localDay (t offsetSecs : Int) : Int := (t + offsetSecs) / 86400

/-- `chrono`'s reader of RFC 3339, in seconds. -/
structure Rfc3339 where
  seconds : String → Except String Int

def Rfc3339.clock (rfc : Rfc3339) : ReceiptClock where
  localDate := fun nowUtc offsetSecs => (rfc.seconds nowUtc).map (fun t =>
    (yymmdd (localDay t offsetSecs), yearText (yearOfDay (localDay t offsetSecs))))

def knownZones : List String :=
  ["utc", "gmt", "asia/jakarta", "asia/pontianak", "asia/makassar", "asia/jayapura"]

def isKnownZone (tzName : String) : Bool := knownZones.contains (asciiLowercase tzName)

def offsetForZone (tzName : String) : Int :=
  match asciiLowercase tzName with
  | "asia/jakarta" | "asia/pontianak" => 7 * 3600
  | "asia/makassar" => 8 * 3600
  | "asia/jayapura" => 9 * 3600
  | _ => 0

/-- `FixedOffset` prints as `±HH:MM`. -/
def displayOffset (secs : Int) : String :=
  let minutes : Int := secs.natAbs / 60
  (if secs < 0 then "-" else "+") ++ padOrdinal 2 (minutes / 60) ++ ":" ++
    padOrdinal 2 (minutes % 60)

def digitOf (c : Char) : Nat := c.toNat - '0'.toNat

variable (raw : String)

/-- `"UTC"`, or six bytes `±HH:MM` with an hour to 23 and a minute to 59. -/
def parseFixedOffset : Option String :=
  if raw = "UTC" then some "+00:00"
  else
    match raw.toList with
    | [sign, h₁, h₂, ':', m₁, m₂] =>
      if (sign = '+' ∨ sign = '-') ∧ h₁.isDigit ∧ h₂.isDigit ∧ m₁.isDigit ∧ m₂.isDigit ∧
          digitOf h₁ * 10 + digitOf h₂ ≤ 23 ∧ digitOf m₁ * 10 + digitOf m₂ ≤ 59 then some raw
      else none
    | _ => none

/-- The date modifier of a stored timezone, or `none` where reports cannot resolve it. -/
def parseUtcOffset : Option String :=
  match parseFixedOffset raw with
  | some fixed => some fixed
  | none =>
    let zone := trim raw
    if isKnownZone zone then some (displayOffset (offsetForZone zone)) else none

/-- The seconds by which SQLite's modifier `±HH:MM` shifts a time. -/
def timeShift (modifier : String) : Option Int :=
  match modifier.toList with
  | [sign, h₁, h₂, ':', m₁, m₂] =>
    let secs : Int := (digitOf h₁ * 10 + digitOf h₂) * 3600 + (digitOf m₁ * 10 + digitOf m₂) * 60
    some (if sign = '-' then -secs else secs)
  | _ => none

def reportOffset : Option Int := (parseUtcOffset raw).bind timeShift

section Parsers

theorem isWhitespace_of_isDigit {c : Char} (h : c.isDigit = true) : isWhitespace c = false := by
  have hrange : 48 ≤ c.toNat ∧ c.toNat ≤ 57 := by
    simp only [Char.isDigit, ge_iff_le, Bool.and_eq_true, decide_eq_true_eq,
      UInt32.le_iff_toNat_le] at h
    exact h
  simp only [isWhitespace]
  grind

theorem parseDigits_two {a b : Char} (ha : a.isDigit = true) (hb : b.isDigit = true) :
    parseSigned [a, b] = some ((digitOf a * 10 + digitOf b : Nat) : Int) := by
  have hplus : a ≠ '+' := by
    rintro rfl
    exact absurd ha (by decide)
  have hminus : a ≠ '-' := by
    rintro rfl
    exact absurd ha (by decide)
  simp [parseSigned, parseDigits, ha, hb, hplus, hminus, Nat.ofDigitChars_cons, digitOf,
    Nat.mul_comm]

/-- What the report parser reads off six characters. -/
structure FixedOffset (raw : String) (sign : Char) (hours minutes : Nat) : Prop where
  text : ∃ h₁ h₂ m₁ m₂, raw.toList = [sign, h₁, h₂, ':', m₁, m₂] ∧ h₁.isDigit ∧ h₂.isDigit ∧
    m₁.isDigit ∧ m₂.isDigit ∧ hours = digitOf h₁ * 10 + digitOf h₂ ∧
    minutes = digitOf m₁ * 10 + digitOf m₂
  sign : sign = '+' ∨ sign = '-'
  hours_le : hours ≤ 23
  minutes_le : minutes ≤ 59

def signedSeconds (sign : Char) (hours minutes : Nat) : Int :=
  if sign = '-' then -((hours : Int) * 3600 + minutes * 60) else hours * 3600 + minutes * 60

theorem parseFixedOffset_eq_some {raw fixed : String} (h : parseFixedOffset raw = some fixed) :
    (raw = "UTC" ∧ timeShift fixed = some 0) ∨
      ∃ sign hours minutes, FixedOffset raw sign hours minutes ∧
        timeShift fixed = some (signedSeconds sign hours minutes) := by
  unfold parseFixedOffset at h
  split at h
  · rename_i hutc
    cases h
    exact .inl ⟨hutc, by decide⟩
  · split at h
    · rename_i sign h₁ h₂ m₁ m₂ htext
      split at h
      · rename_i hshape
        obtain ⟨hsign, hh₁, hh₂, hm₁, hm₂, hhours, hminutes⟩ := hshape
        cases h
        right
        refine ⟨sign, _, _, ⟨⟨h₁, h₂, m₁, m₂, htext, hh₁, hh₂, hm₁, hm₂, rfl, rfl⟩, hsign, hhours,
          hminutes⟩, ?_⟩
        simp [timeShift, htext, signedSeconds]
      · cases h
    · cases h

theorem trimChars_of_ends {first last : Char} {l : List Char}
    (hfirst : isWhitespace first = false) (hlast : isWhitespace last = false) :
    trimChars (first :: (l ++ [last])) = first :: (l ++ [last]) := by
  simp [trimChars, hfirst, hlast]

theorem offsetSeconds_fixed {raw : String} {sign : Char} {hours minutes : Nat}
    (h : FixedOffset raw sign hours minutes) :
    offsetSeconds raw = if hours ≤ 14 then some (signedSeconds sign hours minutes) else none := by
  obtain ⟨h₁, h₂, m₁, m₂, htext, hh₁, hh₂, hm₁, hm₂, hhours, hminutes⟩ := h.text
  have hsigned : isWhitespace sign = false := by
    rcases h.sign with rfl | rfl
    · decide
    · decide
  have hends : trimChars raw.toList = raw.toList := by
    rw [htext]
    exact trimChars_of_ends (l := [h₁, h₂, ':', m₁]) hsigned (isWhitespace_of_isDigit hm₂)
  have htrim : trim raw = raw := by
    rw [trim, hends, String.ofList_toList]
  have hnamed (name : String) (hlength : name.toList.length ≠ 6) :
      ignoreCaseEq raw name = false := by
    simp only [ignoreCaseEq, decide_eq_false_iff_not]
    intro heq
    have hlen := congrArg List.length heq
    rw [htext] at hlen
    simp at hlen
    omega
  have hempty : raw ≠ "" := by
    rintro rfl
    cases htext
  have hrest (s : Int) : unsignedOffset s [h₁, h₂, ':', m₁, m₂] =
      if hours ≤ 14 then some (s * ((hours : Int) * 3600 + minutes * 60)) else none := by
    have hc₁ : h₁ ≠ ':' := by
      rintro rfl
      exact absurd hh₁ (by decide)
    have hc₂ : h₂ ≠ ':' := by
      rintro rfl
      exact absurd hh₂ (by decide)
    have hspan : [h₁, h₂, ':', m₁, m₂].span (· ≠ ':') = ([h₁, h₂], [':', m₁, m₂]) := by
      simp [List.span_eq_takeWhile_dropWhile, hc₁, hc₂]
    have hbound := h.minutes_le
    simp only [unsignedOffset, hspan, parseDigits_two hh₁ hh₂, parseDigits_two hm₁ hm₂,
      Option.bind_some, ← hhours, ← hminutes]
    by_cases hle : hours ≤ 14
    · rw [if_pos hle, if_pos (by omega)]
    · rw [if_neg hle, if_neg (by omega)]
  simp only [offsetSeconds, htrim, hnamed "UTC" (by decide), hnamed "Z" (by decide), hempty,
    decide_false, Bool.or_self, Bool.false_eq_true, if_false]
  rcases h.sign with rfl | rfl
  · simp [htext, hrest, signedSeconds]
  · simp [htext, hrest, signedSeconds]

theorem offsetSeconds_zone {raw : String} (h : isKnownZone (trim raw) = true) :
    (offsetSeconds raw).getD 0 = 0 := by
  have hname : asciiLowercase (trim raw) ∈ knownZones := by
    simpa [isKnownZone] using h
  have hchars : (trim raw).toList.map Char.toLower = (asciiLowercase (trim raw)).toList := by
    rw [asciiLowercase, String.toList_ofList]
  have hunsigned (sign : Char) (rest : List Char) (htext : (trim raw).toList = sign :: rest)
      (hsign : sign = '+' ∨ sign = '-') : False := by
    rw [htext] at hchars
    simp only [knownZones, List.mem_cons, List.not_mem_nil, or_false] at hname
    rcases hname with hname | hname | hname | hname | hname | hname
    all_goals
      rw [hname] at hchars
      rcases hsign with rfl | rfl
      all_goals exact absurd (List.cons.inj hchars).1 (by decide)
  unfold offsetSeconds
  simp only
  split
  · rfl
  · split
    · rename_i rest htext
      exact (hunsigned '+' rest htext (.inl rfl)).elim
    · rename_i rest htext
      exact (hunsigned '-' rest htext (.inr rfl)).elim
    · rfl

theorem timeShift_zone (zone : String) :
    timeShift (displayOffset (offsetForZone zone)) = some (offsetForZone zone) ∧
      0 ≤ offsetForZone zone ∧ offsetForZone zone ≤ 32400 := by
  unfold offsetForZone
  split <;> decide +kernel

/-- A fixed offset short of fifteen hours, or UTC: both parsers read it alike. -/
def ReadAlike (tz : String) (offset : Int) : Prop :=
  (parseFixedOffset tz).isSome ∧ -54000 < offset ∧ offset < 54000

theorem receipt_offset {tz : String} {offset : Int} (h : reportOffset tz = some offset) :
    (-86400 < offset ∧ offset < 86400) ∧
      (ReadAlike tz offset → offsetSeconds tz = some offset) ∧
      (¬ ReadAlike tz offset → (offsetSeconds tz).getD 0 = 0) := by
  unfold reportOffset parseUtcOffset at h
  unfold ReadAlike
  cases hfixed : parseFixedOffset tz with
  | some fixed =>
    simp only [hfixed, Option.bind_some] at h
    rcases parseFixedOffset_eq_some hfixed with ⟨rfl, hshift⟩ | ⟨sign, hours, minutes, hf, hshift⟩
    · rw [hshift] at h
      cases h
      exact ⟨by decide, fun _ => by decide, fun _ => by decide⟩
    · rw [hshift] at h
      cases h
      have hhours := hf.hours_le
      have hminutes := hf.minutes_le
      have hsecs : (signedSeconds sign hours minutes = (hours : Int) * 3600 + minutes * 60) ∨
          signedSeconds sign hours minutes = -((hours : Int) * 3600 + minutes * 60) := by
        unfold signedSeconds
        split
        · exact .inr rfl
        · exact .inl rfl
      rw [offsetSeconds_fixed hf]
      refine ⟨by omega, ?_, ?_⟩
      · intro halike
        have hle : hours ≤ 14 := by omega
        rw [if_pos hle]
      · intro hunlike
        have hlong : ¬ hours ≤ 14 := by
          intro hle
          exact hunlike ⟨rfl, by omega⟩
        rw [if_neg hlong]
        rfl
  | none =>
    simp only [hfixed] at h
    by_cases hknown : isKnownZone (trim tz) = true
    · obtain ⟨hshift, hlow, hhigh⟩ := timeShift_zone (trim tz)
      rw [if_pos hknown, Option.bind_some, hshift] at h
      have hoffset := Option.some.inj h
      rw [← hoffset]
      refine ⟨by omega, ?_, fun _ => offsetSeconds_zone hknown⟩
      intro halike
      cases halike.1
    · rw [if_neg hknown] at h
      cases h

end Parsers

section Dates

theorem length_padOrdinal {width n : Nat} (hwidth : 0 < width) (h : n < 10 ^ width) :
    (padOrdinal width n).toList.length = width := by
  have hdigits := (Nat.length_toDigits_le_iff (n := n) (b := 10) (by decide) hwidth).mpr h
  rw [toList_padOrdinal, List.length_append, List.length_replicate, Int.toNat_natCast]
  omega

theorem length_twoDigits {n : Int} (h : 0 ≤ n ∧ n < 100) : (padOrdinal 2 n).toList.length = 2 := by
  obtain ⟨k, rfl⟩ := Int.eq_ofNat_of_zero_le h.1
  exact @length_padOrdinal 2 k (by decide) (by omega)

theorem padOrdinal_inj_int {padding n m : Int} (hn : 0 ≤ n) (hm : 0 ≤ m)
    (h : padOrdinal padding n = padOrdinal padding m) : n = m := by
  obtain ⟨k, rfl⟩ := Int.eq_ofNat_of_zero_le hn
  obtain ⟨l, rfl⟩ := Int.eq_ofNat_of_zero_le hm
  rw [padOrdinal_inj h]

theorem date_fields (day : Int) :
    (0 ≤ yearOfDay day % 100 ∧ yearOfDay day % 100 < 100) ∧
      (0 ≤ Calendar.monthOf day % 12 + 1 ∧ Calendar.monthOf day % 12 + 1 < 100) ∧
      (0 ≤ Calendar.dayOfMonth day ∧ Calendar.dayOfMonth day < 100) := by
  have hday := Calendar.dayOfMonth_bounds day
  omega

theorem length_yymmdd (day : Int) : (yymmdd day).toList.length = 6 := by
  obtain ⟨hyear, hmonth, hday⟩ := date_fields day
  have hyears := length_twoDigits hyear
  unfold yearOfDay at hyears
  simp only [yymmdd, String.toList_append, List.length_append, hyears, length_twoDigits hmonth,
    length_twoDigits hday]

theorem yymmdd_fields {day day' : Int} (h : yymmdd day = yymmdd day') :
    yearOfDay day % 100 = yearOfDay day' % 100 ∧
      Calendar.dayOfMonth day = Calendar.dayOfMonth day' := by
  obtain ⟨hyear, hmonth, hday⟩ := date_fields day
  obtain ⟨hyear', hmonth', hday'⟩ := date_fields day'
  have htext := congrArg String.toList h
  simp only [yymmdd, String.toList_append] at htext
  obtain ⟨hfront, hback⟩ := List.append_inj' htext
    ((length_twoDigits hday).trans (length_twoDigits hday').symm)
  obtain ⟨hyears, -⟩ := List.append_inj' hfront
    ((length_twoDigits hmonth).trans (length_twoDigits hmonth').symm)
  exact ⟨padOrdinal_inj_int hyear.1 hyear'.1 (String.toList_inj.mp hyears),
    padOrdinal_inj_int hday.1 hday'.1 (String.toList_inj.mp hback)⟩

theorem yymmdd_neighbours {day day' : Int} (hnear : day' ≤ day + 1 ∧ day ≤ day' + 1)
    (h : yymmdd day = yymmdd day') : day = day' := by
  obtain ⟨-, hplace⟩ := yymmdd_fields h
  rcases Int.lt_trichotomy day day' with hlt | heq | hgt
  · obtain rfl : day' = day + 1 := by omega
    exact absurd hplace.symm (Calendar.dayOfMonth_succ_ne day)
  · exact heq
  · obtain rfl : day = day' + 1 := by omega
    exact absurd hplace (Calendar.dayOfMonth_succ_ne day')

/-- The offset takes the instant over no midnight of UTC. -/
def SameUtcDay (t offset : Int) : Prop := 0 ≤ t % 86400 + offset ∧ t % 86400 + offset < 86400

variable (rfc : Rfc3339)

/-- The date on the receipt is the business day of the reports. -/
def DatedLikeReports (tz nowUtc : String) (t offset : Int) : Prop :=
  ∃ year, resolveReceiptDate rfc.clock nowUtc tz = .ok (yymmdd (localDay t offset), year)

theorem resolveReceiptDate_eq (tz : String) {nowUtc : String} {t : Int}
    (ht : rfc.seconds nowUtc = .ok t) :
    resolveReceiptDate rfc.clock nowUtc tz =
      .ok (yymmdd (localDay t ((offsetSeconds tz).getD 0)),
        yearText (yearOfDay (localDay t ((offsetSeconds tz).getD 0)))) := by
  simp [resolveReceiptDate, Rfc3339.clock, ht, Except.map]

/-- Receipt and reports agree on the day just where both read the timezone alike or the offset
does not move the instant to another day of UTC. -/
theorem dated_like_reports_iff {tz nowUtc : String} {t offset : Int}
    (hreport : reportOffset tz = some offset) (ht : rfc.seconds nowUtc = .ok t) :
    DatedLikeReports rfc tz nowUtc t offset ↔ ReadAlike tz offset ∨ SameUtcDay t offset := by
  obtain ⟨hbound, halike, hunlike⟩ := receipt_offset hreport
  have hprinted : DatedLikeReports rfc tz nowUtc t offset ↔
      yymmdd (localDay t ((offsetSeconds tz).getD 0)) = yymmdd (localDay t offset) := by
    unfold DatedLikeReports
    rw [resolveReceiptDate_eq rfc tz ht]
    simp
  rw [hprinted]
  by_cases hread : ReadAlike tz offset
  · rw [halike hread]
    exact iff_of_true rfl (.inl hread)
  · rw [hunlike hread]
    constructor
    · intro hsame
      have hday : localDay t 0 = localDay t offset := by
        apply yymmdd_neighbours _ hsame
        simp only [localDay]
        omega
      right
      simp only [localDay] at hday
      unfold SameUtcDay
      omega
    · intro hwithin
      obtain ⟨hlow, hhigh⟩ := hwithin.resolve_left hread
      have hday : localDay t 0 = localDay t offset := by
        simp only [localDay]
        omega
      rw [hday]

end Dates

end OzPos
