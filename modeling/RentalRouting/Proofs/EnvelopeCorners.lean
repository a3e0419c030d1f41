/-
RentalRouting/Proofs/EnvelopeCorners.lean

Reading an envelope from its two corners.  A corner `lat,lon` reads when it splits at its
first comma and the texts on either side, trimmed, read as finite numbers; a number is read
as a decimal literal or as a word for infinity or not-a-number, in any case, after an
optional sign (`readNumberWord?`).  The rectangle of the two corners is the geometry
library's, so reading is stated for any rectangle `rect` that orders each axis
(`Envelope.OrdersCorners`), as the library's does and the program's `ofCorners` does
(`Envelope.ordersCorners_ofCorners`).  Reading two corners answers

    parseWith rect a b = .ok e      when both corners read, `e` holding on each axis the two
                                    coordinates in increasing order;
    parseWith rect a b = .error err when one does not, `err` naming the first such corner,
                                    the lower-left one first    (`Envelope.parseWith_readsAs`)

and a query of swapped corners accepts the same stations (`Query.accepts_ofCornersWith_comm`).

Corners are read with the literal reader alone and checked to be finite.  That is the same
as reading the words too: a word reads as an infinity or as not-a-number, never finite, and
no word is a literal (`readsFinite_iff`).  Two envelopes that order the axes of the same two
corners, taken in either order, hold the same points: where their bounds come out swapped,
each bound is at most the other (`Envelope.between_of_orders`).
-/
import RentalRouting.Station.Query
import RentalRouting.Proofs.FloatDivision
import RentalRouting.Proofs.FloatSign

namespace Float

theorem isFinite_nan : (0.0 / 0.0 : Float).isFinite = false := by decide +kernel

end Float

/-- Lower-casing leaves a digit alone. -/
theorem Char.toLower_of_isDigit {c : Char} (h : c.isDigit = true) : c.toLower = c := by
  apply Char.toLower_eq_of_not_isUpper
  simp only [Char.isDigit, Char.isUpper, Bool.and_eq_true, decide_eq_true_eq,
    UInt32.le_iff_toNat_le] at h ⊢
  simp at h ⊢
  omega

namespace RentalRouting

/-! ### Words are never finite literals -/

theorem Double.isFinite_encodeUnits_overflow (negative : Bool) :
    (encodeUnits negative overflowUnits).isFinite = false := by
  cases negative <;> decide +kernel

namespace Decimal

/-- A text whose first character after the sign is neither a digit nor a point is no
literal. -/
theorem parts?_eq_none {s : String} {c : Char} {rest : List Char}
    (hs : (splitSign s.toList).2 = c :: rest) (hdigit : c.isDigit = false) (hdot : c ≠ '.') :
    parts? s = none := by
  have hsplit : splitSign s.toList = ((splitSign s.toList).1, c :: rest) := by rw [← hs]
  unfold parts?
  rw [hsplit]
  simp [spanDigits, List.span_eq_takeWhile_dropWhile, hdigit, hdot]

end Decimal

/-- The letter a word for infinity (`i`) or not-a-number (`n`) starts with is neither a digit
nor a point. -/
theorem not_numeral_of_toLower {c : Char} (h : c.toLower = 'i' ∨ c.toLower = 'n') :
    c.isDigit = false ∧ c ≠ '.' := by
  constructor
  · cases hc : c.isDigit
    · rfl
    · rw [Char.toLower_of_isDigit hc] at h
      rcases h with rfl | rfl <;> simp at hc
  · rintro rfl
    rcases h with h | h <;> simp at h

/-- A text that lower-cases to a word starting with `l` starts with a letter that
lower-cases to `l`. -/
theorem exists_head_of_toLower {body : List Char} {w : String} {l : Char}
    (h : String.ofList (body.map Char.toLower) = w) (hw : w.toList.head? = some l) :
    ∃ c rest, body = c :: rest ∧ c.toLower = l := by
  have hlist := congrArg (fun w => w.toList.head?) h
  simp only [String.toList_ofList, hw] at hlist
  cases body with
  | nil => simp at hlist
  | cons c rest => exact ⟨c, rest, rfl, by simpa using hlist⟩

theorem readDecimal?_eq_none_of_word {s : String} {c : Char} {rest : List Char}
    (hs : (Decimal.splitSign s.toList).2 = c :: rest) (hc : c.toLower = 'i' ∨ c.toLower = 'n') :
    readDecimal? s = none := by
  obtain ⟨hdigit, hdot⟩ := not_numeral_of_toLower hc
  simp [readDecimal?, Decimal.parts?_eq_none hs hdigit hdot]

/-- Reading a number reads a literal, or a word for infinity or not-a-number, which reads as a
value that is not finite and is no literal. -/
theorem readNumberWord?_eq_or (s : String) :
    readNumberWord? s = readDecimal? s ∨
      ∃ v, readNumberWord? s = some v ∧ v.isFinite = false ∧ readDecimal? s = none := by
  unfold readNumberWord?
  generalize hs : Decimal.splitSign s.toList = p
  obtain ⟨negative, body⟩ := p
  dsimp only
  split_ifs with hinf hnan
  · -- a word for infinity
    have hword : ∃ c rest, body = c :: rest ∧ c.toLower = 'i' := by
      simp only [Bool.or_eq_true, decide_eq_true_eq] at hinf
      rcases hinf with h | h
      · exact exists_head_of_toLower h (by simp)
      · exact exists_head_of_toLower h (by simp)
    obtain ⟨c, rest, rfl, hc⟩ := hword
    exact .inr ⟨_, rfl, Double.isFinite_encodeUnits_overflow negative,
      readDecimal?_eq_none_of_word (by rw [hs]) (.inl hc)⟩
  · -- the word for not-a-number
    obtain ⟨c, rest, rfl, hc⟩ :=
      exists_head_of_toLower hnan (by simp : "nan".toList.head? = some 'n')
    exact .inr ⟨_, rfl, Float.isFinite_nan, readDecimal?_eq_none_of_word (by rw [hs]) (.inr hc)⟩
  · exact .inl rfl

/-- The text reads as a finite number. -/
def ReadsFinite (text : String) (x : Float) : Prop :=
  readNumberWord? text = some x ∧ x.isFinite = true

/-- A text reads as a finite number exactly when it is a literal of a finite number. -/
theorem readsFinite_iff {s : String} {x : Float} :
    ReadsFinite s x ↔ readDecimal? s = some x ∧ x.isFinite = true := by
  unfold ReadsFinite
  rcases readNumberWord?_eq_or s with h | ⟨v, hv, hfin, hnone⟩
  · rw [h]
  · -- a word: it reads as a value that is not finite, and the literal reader refuses it
    rw [hv, hnone]
    constructor
    · rintro ⟨hvx, hx⟩
      obtain rfl := Option.some.inj hvx
      simp [hfin] at hx
    · rintro ⟨h, -⟩
      cases h

/-! ### Splitting at the first comma -/

/-- Splitting at the first `c` gives the text before it, which holds no `c`, and the text
from it on. -/
theorem span_ne_eq_iff {c : Char} {l before after : List Char} :
    l.span (· ≠ c) = (before, c :: after) ↔ l = before ++ c :: after ∧ c ∉ before := by
  rw [List.span_eq_takeWhile_dropWhile, Prod.mk.injEq]
  constructor
  · -- the two parts make up the text, and the first holds only characters other than `c`
    rintro ⟨hbefore, hafter⟩
    refine ⟨by rw [← hbefore, ← hafter, List.takeWhile_append_dropWhile], fun hc => ?_⟩
    rw [← hbefore] at hc
    simpa using List.mem_takeWhile_imp hc
  · rintro ⟨rfl, hc⟩
    induction before with
    | nil => simp
    | cons y before ih =>
      simp only [List.mem_cons, not_or] at hc
      have hy : decide (y ≠ c) = true := by simpa using Ne.symm hc.1
      obtain ⟨htake, hdrop⟩ := ih hc.2
      rw [List.cons_append, List.takeWhile_cons, List.dropWhile_cons, if_pos hy, if_pos hy, htake,
        hdrop]
      exact ⟨rfl, rfl⟩

/-- What splitting at `c` leaves after the first part starts with `c`. -/
theorem head_of_span_ne {c x : Char} {l before after : List Char}
    (h : l.span (· ≠ c) = (before, x :: after)) : x = c := by
  rw [List.span_eq_takeWhile_dropWhile, Prod.mk.injEq] at h
  have hx := List.head_dropWhile_not (· ≠ c) (l := l) (by rw [h.2]; exact List.cons_ne_nil _ _)
  simp only [h.2, List.head_cons] at hx
  simpa using hx

namespace Envelope

/-! ### Reading a corner -/

/-- A corner `lat,lon` reads as a latitude and a longitude: it splits at its first comma, and
the texts on either side, trimmed, read as finite numbers. -/
def CornerReads (corner : String) (lat lon : Float) : Prop :=
  ∃ before after, corner.toList = before ++ ',' :: after ∧ ',' ∉ before ∧
    ReadsFinite (Text.trim (String.ofList before)) lat ∧
    ReadsFinite (Text.trim (String.ofList after)) lon

/-- The corner reads as some latitude and longitude. -/
def Readable (corner : String) : Prop := ∃ lat lon, CornerReads corner lat lon

theorem readCorner_eq_ok_iff {corner : String} {lat lon : Float} :
    readCorner corner = .ok (lat, lon) ↔ CornerReads corner lat lon := by
  constructor
  · intro h
    unfold readCorner at h
    generalize hs : corner.toList.span (· ≠ ',') = p at h
    obtain ⟨before, _ | ⟨x, after⟩⟩ := p
    · cases h
    · obtain rfl := head_of_span_ne hs
      obtain ⟨hl, hb⟩ := span_ne_eq_iff.1 hs
      dsimp only at h
      split at h
      · next a b ha hb' =>
        split at h
        · next hfin =>
          cases h
          simp only [Bool.and_eq_true] at hfin
          exact ⟨before, after, hl, hb, readsFinite_iff.2 ⟨ha, hfin.1⟩,
            readsFinite_iff.2 ⟨hb', hfin.2⟩⟩
        · cases h
      · cases h
  · rintro ⟨before, after, hl, hb, hlat, hlon⟩
    rw [readsFinite_iff] at hlat hlon
    unfold readCorner
    rw [span_ne_eq_iff.2 ⟨hl, hb⟩]
    simp [hlat.1, hlon.1, hlat.2, hlon.2]

/-- Reading a corner fails only with an error naming the corner. -/
theorem readCorner_eq_error {corner : String} {err : RentalError}
    (h : readCorner corner = .error err) : err = .envelope corner := by
  unfold readCorner at h
  generalize corner.toList.span (· ≠ ',') = p at h
  obtain ⟨before, _ | ⟨x, after⟩⟩ := p
  · cases h
    rfl
  · dsimp only at h
    split at h
    · split at h
      · cases h
      · cases h
        rfl
    · cases h
      rfl

theorem readCorner_eq_error_iff {corner : String} {err : RentalError} :
    readCorner corner = .error err ↔ ¬ Readable corner ∧ err = .envelope corner := by
  constructor
  · intro h
    refine ⟨fun ⟨lat, lon, hr⟩ => ?_, readCorner_eq_error h⟩
    rw [readCorner_eq_ok_iff.2 hr] at h
    cases h
  · rintro ⟨hno, rfl⟩
    cases h : readCorner corner with
    | error e => rw [readCorner_eq_error h]
    | ok p => exact absurd ⟨p.1, p.2, readCorner_eq_ok_iff.1 h⟩ hno

theorem CornerReads.isFinite {corner : String} {lat lon : Float} (h : CornerReads corner lat lon) :
    lat.isFinite = true ∧ lon.isFinite = true := by
  obtain ⟨_, _, _, _, hlat, hlon⟩ := h
  exact ⟨hlat.2, hlon.2⟩

/-! ### Bounds of an axis -/

/-- `lo` and `hi` are `a` and `b` in increasing order. -/
def Orders (a b lo hi : Float) : Prop :=
  (lo = a ∧ hi = b ∨ lo = b ∧ hi = a) ∧ lo ≤ hi

/-- The bounds of two numbers are the two in increasing order. -/
theorem orders_bounds {a b : Float} (ha : a.isNaN = false) (hb : b.isNaN = false) :
    Orders a b (bounds a b).1 (bounds a b).2 := by
  unfold bounds
  split_ifs with hab
  · exact ⟨.inl ⟨rfl, rfl⟩, Float.le_of_lt hab⟩
  · exact ⟨.inr ⟨rfl, rfl⟩, Float.le_of_not_lt ha hb hab⟩

/-- Between `a` and `b` is between `b` and `a` when each is at most the other. -/
theorem between_flip {a b x : Float} (hab : a ≤ b) (hba : b ≤ a) :
    (a ≤ x ∧ x ≤ b) ↔ (b ≤ x ∧ x ≤ a) :=
  ⟨fun ⟨hax, hxb⟩ => ⟨Float.le_trans hba hax, Float.le_trans hxb hba⟩,
    fun ⟨hbx, hxa⟩ => ⟨Float.le_trans hab hbx, Float.le_trans hxa hab⟩⟩

/-- The points between the bounds of two numbers taken in either order are the same: bounds
that come out swapped are each at most the other. -/
theorem between_of_orders {a b lo hi lo' hi' : Float} (h : Orders a b lo hi)
    (h' : Orders b a lo' hi') (x : Float) : (lo ≤ x ∧ x ≤ hi) ↔ (lo' ≤ x ∧ x ≤ hi') := by
  obtain ⟨⟨rfl, rfl⟩ | ⟨rfl, rfl⟩, hle⟩ := h <;>
    obtain ⟨⟨rfl, rfl⟩ | ⟨rfl, rfl⟩, hle'⟩ := h'
  · exact between_flip hle hle'
  · exact Iff.rfl
  · exact Iff.rfl
  · exact between_flip hle hle'

/-! ### Reading two corners -/

/-- The envelope's bounds on each axis are the two corners' coordinates in increasing order. -/
def Spans (e : Envelope) (c₁ c₂ : Float × Float) : Prop :=
  Orders c₁.1 c₂.1 e.minX e.maxX ∧ Orders c₁.2 c₂.2 e.minY e.maxY

/-- Envelopes spanning two corners, taken in either order, hold the same points. -/
theorem contains_comm_of_spans {e e' : Envelope} {c₁ c₂ : Float × Float} (h : Spans e c₁ c₂)
    (h' : Spans e' c₂ c₁) (x y : Float) : e'.contains x y = e.contains x y := by
  rw [Bool.eq_iff_iff, contains_iff, contains_iff, ← between_of_orders h.1 h'.1 x,
    ← between_of_orders h.2 h'.2 y]

/-- A way of building the envelope of two corners orders each axis: on corners of finite
coordinates, the bounds it gives are the two corners' coordinates in increasing order.  What
is proved of reading corners rests on the geometry library's rectangle doing so. -/
def OrdersCorners (rect : Float × Float → Float × Float → Envelope) : Prop :=
  ∀ c₁ c₂ : Float × Float, c₁.1.isFinite = true → c₁.2.isFinite = true →
    c₂.1.isFinite = true → c₂.2.isFinite = true → Spans (rect c₁ c₂) c₁ c₂

/-- The program's envelope orders each axis. -/
theorem ordersCorners_ofCorners : OrdersCorners ofCorners :=
  fun _ _ hx₁ hy₁ hx₂ hy₂ =>
    ⟨orders_bounds (Float.isNaN_of_isFinite hx₁) (Float.isNaN_of_isFinite hx₂),
      orders_bounds (Float.isNaN_of_isFinite hy₁) (Float.isNaN_of_isFinite hy₂)⟩

variable {rect : Float × Float → Float × Float → Envelope}

theorem parseWith_eq_bind (a b : String) :
    parseWith rect a b = (readCorner a).bind fun (latA, lonA) =>
      (readCorner b).bind fun (latB, lonB) => .ok (rect (lonA, latA) (lonB, latB)) := rfl

theorem parseWith_eq_ok_iff {a b : String} {e : Envelope} :
    parseWith rect a b = .ok e ↔ ∃ latA lonA latB lonB, readCorner a = .ok (latA, lonA) ∧
      readCorner b = .ok (latB, lonB) ∧ e = rect (lonA, latA) (lonB, latB) := by
  constructor
  · intro h
    rw [parseWith_eq_bind] at h
    cases ha : readCorner a with
    | error err =>
      rw [ha] at h
      cases h
    | ok pa =>
      cases hb : readCorner b with
      | error err =>
        rw [ha, hb] at h
        cases h
      | ok pb =>
        rw [ha, hb] at h
        cases h
        exact ⟨pa.1, pa.2, pb.1, pb.2, rfl, rfl, rfl⟩
  · rintro ⟨latA, lonA, latB, lonB, ha, hb, rfl⟩
    rw [parseWith_eq_bind, ha, hb]
    rfl

theorem parseWith_eq_error_iff {a b : String} {err : RentalError} :
    parseWith rect a b = .error err ↔
      readCorner a = .error err ∨ (∃ p, readCorner a = .ok p) ∧ readCorner b = .error err := by
  rw [parseWith_eq_bind]
  cases readCorner a with
  | error err => simp [Except.bind]
  | ok pa =>
    cases readCorner b with
    | error err => simp [Except.bind]
    | ok pb => simp [Except.bind]

/-- What reading two corners answers: an envelope spanning both when both read, else an error
naming the first corner that does not read. -/
def ReadsAs (lowerLeft upperRight : String) : Except RentalError Envelope → Prop
  | .ok e => ∃ latA lonA latB lonB, CornerReads lowerLeft latA lonA ∧
      CornerReads upperRight latB lonB ∧ Spans e (lonA, latA) (lonB, latB)
  | .error err => ¬ Readable lowerLeft ∧ err = .envelope lowerLeft ∨
      Readable lowerLeft ∧ ¬ Readable upperRight ∧ err = .envelope upperRight

theorem parseWith_readsAs (hrect : OrdersCorners rect) (a b : String) :
    ReadsAs a b (parseWith rect a b) := by
  cases ha : readCorner a with
  | error err =>
    rw [parseWith_eq_error_iff.2 (.inl ha)]
    exact .inl (readCorner_eq_error_iff.1 ha)
  | ok pa =>
    obtain ⟨latA, lonA⟩ := pa
    have hra := readCorner_eq_ok_iff.1 ha
    cases hb : readCorner b with
    | error err =>
      rw [parseWith_eq_error_iff.2 (.inr ⟨⟨_, ha⟩, hb⟩)]
      exact .inr ⟨⟨latA, lonA, hra⟩, readCorner_eq_error_iff.1 hb⟩
    | ok pb =>
      obtain ⟨latB, lonB⟩ := pb
      have hrb := readCorner_eq_ok_iff.1 hb
      rw [parseWith_eq_ok_iff.2 ⟨latA, lonA, latB, lonB, ha, hb, rfl⟩]
      exact ⟨latA, lonA, latB, lonB, hra, hrb,
        hrect _ _ hra.isFinite.2 hra.isFinite.1 hrb.isFinite.2 hrb.isFinite.1⟩

-- a lower-left corner without a comma is the one the error names
example : parse "45.5" "45.6,-122.6" = .error (.envelope "45.5") := rfl

/-- Reading two corners succeeds exactly when both read, however the envelope is built. -/
theorem parseWith_ok_iff {a b : String} :
    (∃ e, parseWith rect a b = .ok e) ↔ Readable a ∧ Readable b := by
  constructor
  · rintro ⟨e, he⟩
    obtain ⟨latA, lonA, latB, lonB, ha, hb, -⟩ := parseWith_eq_ok_iff.1 he
    exact ⟨⟨latA, lonA, readCorner_eq_ok_iff.1 ha⟩, ⟨latB, lonB, readCorner_eq_ok_iff.1 hb⟩⟩
  · rintro ⟨⟨latA, lonA, ha⟩, ⟨latB, lonB, hb⟩⟩
    exact ⟨_, parseWith_eq_ok_iff.2 ⟨latA, lonA, latB, lonB, readCorner_eq_ok_iff.2 ha,
      readCorner_eq_ok_iff.2 hb, rfl⟩⟩

/-- Swapping the corners gives an envelope holding the same points, when the envelope orders
each axis. -/
theorem parseWith_comm (hrect : OrdersCorners rect) {a b : String} {e : Envelope}
    (h : parseWith rect a b = .ok e) :
    ∃ e', parseWith rect b a = .ok e' ∧ ∀ x y, e'.contains x y = e.contains x y := by
  obtain ⟨latA, lonA, latB, lonB, ha, hb, rfl⟩ := parseWith_eq_ok_iff.1 h
  have hfa := (readCorner_eq_ok_iff.1 ha).isFinite
  have hfb := (readCorner_eq_ok_iff.1 hb).isFinite
  exact ⟨_, parseWith_eq_ok_iff.2 ⟨latB, lonB, latA, lonA, hb, ha, rfl⟩,
    contains_comm_of_spans (hrect _ _ hfa.2 hfa.1 hfb.2 hfb.1)
      (hrect _ _ hfb.2 hfb.1 hfa.2 hfa.1)⟩

end Envelope

namespace Query

variable {rect : Float × Float → Float × Float → Envelope}

theorem ofCornersWith_eq_ok_iff {a b : String} {q : Query} :
    ofCornersWith rect a b = .ok q ↔
      ∃ e, Envelope.parseWith rect a b = .ok e ∧ q = { envelope := some e } := by
  show (Envelope.parseWith rect a b).bind (fun e => .ok { envelope := some e }) = .ok q ↔ _
  cases Envelope.parseWith rect a b with
  | error err => simp [Except.bind]
  | ok e => simp [Except.bind, eq_comm]

/-- A query of swapped corners accepts the same stations, when the envelope orders each
axis. -/
theorem accepts_ofCornersWith_comm (hrect : Envelope.OrdersCorners rect) {a b : String}
    {q : Query} (h : ofCornersWith rect a b = .ok q) :
    ∃ q', ofCornersWith rect b a = .ok q' ∧ ∀ s, q'.accepts s = q.accepts s := by
  obtain ⟨e, he, rfl⟩ := ofCornersWith_eq_ok_iff.1 h
  obtain ⟨e', he', hcontains⟩ := Envelope.parseWith_comm hrect he
  refine ⟨_, ofCornersWith_eq_ok_iff.2 ⟨e', he', rfl⟩, fun s => ?_⟩
  simp only [accepts, hcontains]

end Query

/-- Reading an envelope from a lower-left and an upper-right corner `lat,lon` succeeds exactly
when each corner splits at its first comma into two trimmed texts that read as finite
numbers; otherwise the error names the first corner that does not read.  Where the envelope
is built by a rectangle that orders each axis, as the geometry library's does, it holds on
each axis the two corners' coordinates in increasing order, and a query of the two corners
swapped accepts the same stations. -/
theorem envelope_parse_reads_corners (rect : Float × Float → Float × Float → Envelope)
    (hrect : Envelope.OrdersCorners rect) (a b : String) :
    ((∃ e, Envelope.parseWith rect a b = .ok e) ↔ Envelope.Readable a ∧ Envelope.Readable b) ∧
      Envelope.ReadsAs a b (Envelope.parseWith rect a b) ∧
      ∀ q, Query.ofCornersWith rect a b = .ok q →
        ∃ q', Query.ofCornersWith rect b a = .ok q' ∧ ∀ s, q'.accepts s = q.accepts s :=
  ⟨Envelope.parseWith_ok_iff, Envelope.parseWith_readsAs hrect a b,
    fun _ => Query.accepts_ofCornersWith_comm hrect⟩

/-- The program's envelope, read from the corners of a box around Portland given lower-left
first. -/
theorem portland_corners_read :
    Envelope.OrdersCorners Envelope.ofCorners ∧
      ((∃ e, Envelope.parse "45.5,-122.7" "45.6,-122.6" = .ok e) ↔
        Envelope.Readable "45.5,-122.7" ∧ Envelope.Readable "45.6,-122.6") ∧
      Envelope.ReadsAs "45.5,-122.7" "45.6,-122.6" (Envelope.parse "45.5,-122.7" "45.6,-122.6") ∧
      ∀ q, Query.ofCorners "45.5,-122.7" "45.6,-122.6" = .ok q →
        ∃ q', Query.ofCorners "45.6,-122.6" "45.5,-122.7" = .ok q' ∧
          ∀ s, q'.accepts s = q.accepts s :=
  ⟨Envelope.ordersCorners_ofCorners,
    envelope_parse_reads_corners Envelope.ofCorners Envelope.ordersCorners_ofCorners
      "45.5,-122.7" "45.6,-122.6"⟩

end RentalRouting
