import EditorAssist.Number.Binary64

/-!
# Timestamps

Dates of the civil calendar from a count of days, and the timestamp of a moment after the start of
2024 in universal time with milliseconds.
-/

namespace EditorAssist.Time

open EditorAssist.Number

/-- A date of the civil calendar. -/
structure Date where
  year : Int
  month : Nat
  day : Nat
  deriving Repr, DecidableEq

/-- The date that lies `days` after the first of March of the year zero. Years are counted in eras of
four hundred, which all have the same number of days. -/
def Date.ofDays (days : Int) : Date :=
  let era := days / 146097
  let ofEra := (days % 146097).toNat
  let yearOfEra := (ofEra - ofEra / 1460 + ofEra / 36524 - ofEra / 146096) / 365
  let ofYear := ofEra - (365 * yearOfEra + yearOfEra / 4 - yearOfEra / 100)
  let marchMonth := (5 * ofYear + 2) / 153
  let day := ofYear - (153 * marchMonth + 2) / 5 + 1
  let month := if marchMonth < 10 then marchMonth + 3 else marchMonth - 9
  let year : Int := era * 400 + yearOfEra
  ⟨if month ≤ 2 then year + 1 else year, month, day⟩

/-- Days from the first of March of the year zero to the start of 2024. -/
def startOf2024 : Int := 739191

/-- A number with leading zeros. -/
def padded (width n : Nat) : List Char :=
  let body := digits n
  List.replicate (width - body.length) '0' ++ body

/-- The moment `micros` after the start of 2024. -/
def timestamp (micros : Int) : String :=
  let day := micros / 86400000000
  let rest := (micros % 86400000000).toNat
  let date := Date.ofDays (startOf2024 + day)
  let seconds := rest / 1000000
  String.ofList (padded 4 date.year.toNat ++ '-' :: padded 2 date.month ++ '-' :: padded 2 date.day
    ++ 'T' :: padded 2 (seconds / 3600) ++ ':' :: padded 2 (seconds / 60 % 60)
    ++ ':' :: padded 2 (seconds % 60) ++ '.' :: padded 3 (rest / 1000 % 1000) ++ "+00:00".toList)

end EditorAssist.Time
