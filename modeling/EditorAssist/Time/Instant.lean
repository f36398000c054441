import EditorAssist.Number.Binary64

/-!
# Instants

Time is kept twice. Exact nanoseconds decide what happens before what; the reading in binary64
seconds is what a clock shows, sums of delays included, and only texts are made from it.
-/

namespace EditorAssist.Time

open EditorAssist.Number

/-- A span of time. -/
structure Span where
  nanos : Int
  seconds : Float

/-- A point in time since the start. -/
structure Instant where
  nanos : Int
  seconds : Float

namespace Span

def zero : Span := ⟨0, 0.0⟩

def ofMillis (ms : Int) : Span := ⟨ms * 1000000, Float.ofInt ms / 1000.0⟩

def ofMicros (us : Int) : Span := ⟨us * 1000, Float.ofInt us / 1000000.0⟩

/-- The nearest whole number of nanoseconds to a number of milliseconds. -/
def nanosOfMillis (ms : Float) : Int :=
  match Binary64.ofFloat ms with
  | .finite negative mantissa exponent =>
    let (num, den) := Binary64.fraction mantissa exponent
    let size : Int := roundHalfEven (num * 1000000) den
    if negative then -size else size
  | _ => 0

def ofMillisFloat (ms : Float) : Span := ⟨nanosOfMillis ms, ms / 1000.0⟩

/-- Spans that do not keep anybody waiting. -/
def isInstant (d : Span) : Bool := d.nanos ≤ 0

end Span

namespace Instant

def start : Instant := ⟨0, 0.0⟩

def after (t : Instant) (d : Span) : Instant := ⟨t.nanos + d.nanos, t.seconds + d.seconds⟩

/-- The instant at which a clock that is set shows the exact time. -/
def ofNanos (nanos : Int) : Instant :=
  let size := Float.ofScientific nanos.natAbs true 9
  ⟨nanos, if nanos < 0 then -size else size⟩

/-- Whole microseconds since the start, to the nearest. -/
def micros (t : Instant) : Int :=
  let size : Int := roundHalfEven t.nanos.natAbs 1000
  if t.nanos < 0 then -size else size

/-- Whole milliseconds shown between two readings. -/
def millisBetween (earlier later : Instant) : Int :=
  ((Binary64.ofFloat ((later.seconds - earlier.seconds) * 1000.0)).truncate?).getD 0

/-- Seconds shown between two readings, with one decimal. -/
def elapsedText (earlier later : Instant) : String :=
  String.ofList (fixedFloat 1 (later.seconds - earlier.seconds) ++ ['s'])

/-- Milliseconds since the start, to the nearest. -/
def roundedMillis (t : Instant) : Int :=
  let size : Int := roundHalfEven t.nanos.natAbs 1000000
  if t.nanos < 0 then -size else size

end Instant

/-- A number of seconds with one decimal. -/
def elapsedText (seconds : Float) : String := String.ofList (fixedFloat 1 seconds ++ ['s'])

end EditorAssist.Time
