/-
RentalRouting/Proofs/ModeString.lean

Reading mode strings and choosing a request's modes with them.  A mode string is read token
by token, a token piece by piece, and the first piece that cannot be read is the error:

    parse s = .error e  ↔  (no tokens ∧ e = emptyModes) ∨
                           tokens = pre ++ t :: post, every token of pre read, t fails with e

and within a token the mode comes before the qualifiers, the first unknown qualifier being
reported as written.  A mode read through the name `BICYCLE` is micromobility, so no read
mode is the bicycle: the trimmed first piece is already trimmed when the mode's name is
looked up.

Applied to a request, a mode string sets the modes to those it names, with walking added
for a rented micromobility vehicle and for a car next to transit, turns rental on for a
rented micromobility vehicle, and leaves the rest of the request alone; the order of its
tokens does not matter.
-/
import Mathlib
import RentalRouting.Request.Basic

namespace RentalRouting

/-! ### Traversing a list in `Except` -/

section Traverse

variable {α β ε : Type} (f : α → Except ε β)

theorem except_bind_eq_ok_iff {γ : Type} (x : Except ε γ) (g : γ → Except ε β) (b : β) :
    (x >>= g) = .ok b ↔ ∃ a, x = .ok a ∧ g a = .ok b := by
  cases x <;> simp [bind, Except.bind]

theorem except_bind_eq_error_iff {γ : Type} (x : Except ε γ) (g : γ → Except ε β) (e : ε) :
    (x >>= g) = .error e ↔ x = .error e ∨ ∃ a, x = .ok a ∧ g a = .error e := by
  cases x <;> simp [bind, Except.bind]

/-- A traversal succeeds exactly with the results of every element, in order. -/
theorem mapM_except_eq_ok_iff (xs : List α) (ys : List β) :
    xs.mapM f = .ok ys ↔ List.Forall₂ (fun x y => f x = .ok y) xs ys := by
  induction xs generalizing ys with
  | nil => cases ys <;> simp [pure, Except.pure]
  | cons x xs ih =>
    rw [List.mapM_cons]
    cases hx : f x with
    | error e => cases ys <;> simp [bind, Except.bind, hx]
    | ok y =>
      cases hxs : xs.mapM f with
      | error e => cases ys <;> simp [bind, Except.bind, ← ih, hxs, hx]
      | ok ys' => cases ys <;> simp [bind, Except.bind, pure, Except.pure, ← ih, hxs, hx]

/-- Each result of a pairing is paired with some element. -/
theorem exists_of_forall₂_of_mem {R : α → β → Prop} {xs : List α} {ys : List β}
    (h : List.Forall₂ R xs ys) {y : β} (hy : y ∈ ys) : ∃ x ∈ xs, R x y := by
  induction h with
  | nil => cases hy
  | @cons x y' xs ys hxy _ ih =>
    rcases List.mem_cons.1 hy with rfl | hy
    · exact ⟨x, List.mem_cons_self, hxy⟩
    · obtain ⟨x', hx', hR⟩ := ih hy
      exact ⟨x', List.mem_cons_of_mem x hx', hR⟩

/-- A traversal that succeeds answers one result per element. -/
theorem length_of_mapM_except {xs : List α} {ys : List β} (h : xs.mapM f = .ok ys) :
    ys.length = xs.length :=
  ((mapM_except_eq_ok_iff f xs ys).1 h).length_eq.symm

/-- A traversal fails with the error of the first element that fails, every element before
it having succeeded. -/
theorem mapM_except_eq_error_iff (xs : List α) (e : ε) :
    xs.mapM f = .error e ↔ ∃ pre x post, xs = pre ++ x :: post ∧
      (∀ x' ∈ pre, ∃ y, f x' = .ok y) ∧ f x = .error e := by
  induction xs with
  | nil => simp [pure, Except.pure]
  | cons x xs ih =>
    rw [List.mapM_cons]
    cases hx : f x with
    | error e' =>
      simp only [bind, Except.bind, Except.error.injEq]
      constructor
      · rintro rfl
        exact ⟨[], x, xs, rfl, by simp, hx⟩
      · rintro ⟨pre, x', post, hsplit, hpre, hx'⟩
        cases pre with
        | nil =>
          obtain ⟨rfl, -⟩ := List.cons.inj hsplit
          rw [hx] at hx'
          exact Except.error.inj hx'
        | cons z pre =>
          -- an element before the failing one succeeded, but the first one fails
          obtain ⟨rfl, -⟩ := List.cons.inj hsplit
          obtain ⟨y, hy⟩ := hpre x List.mem_cons_self
          rw [hx] at hy
          cases hy
    | ok y =>
      cases hxs : xs.mapM f with
      | error e' =>
        simp only [bind, Except.bind]
        rw [← hxs, ih]
        constructor
        · rintro ⟨pre, x', post, rfl, hpre, hx'⟩
          refine ⟨x :: pre, x', post, rfl, fun z hz => ?_, hx'⟩
          rcases List.mem_cons.1 hz with rfl | hz
          · exact ⟨y, hx⟩
          · exact hpre z hz
        · rintro ⟨pre, x', post, hsplit, hpre, hx'⟩
          cases pre with
          | nil =>
            obtain ⟨rfl, -⟩ := List.cons.inj hsplit
            rw [hx] at hx'
            cases hx'
          | cons z pre =>
            obtain ⟨-, rfl⟩ := List.cons.inj hsplit
            exact ⟨pre, x', post, rfl, fun z hz => hpre z (by simp [hz]), hx'⟩
      | ok ys =>
        simp only [bind, Except.bind, pure, Except.pure, reduceCtorEq, false_iff]
        rintro ⟨pre, x', post, hsplit, hpre, hx'⟩
        -- every element succeeds, so none fails
        cases pre with
        | nil =>
          obtain ⟨rfl, -⟩ := List.cons.inj hsplit
          rw [hx] at hx'
          cases hx'
        | cons z pre =>
          obtain ⟨-, rfl⟩ := List.cons.inj hsplit
          have hfail := ih.2 ⟨pre, x', post, rfl, fun z hz => hpre z (by simp [hz]), hx'⟩
          rw [hxs] at hfail
          cases hfail

end Traverse

/-! ### Trimming twice -/

namespace Text

theorem trimList_eq (cs : List Char) : trimList cs = (cs.dropWhile isBlank).rdropWhile isBlank := rfl

/-- Trimming a trimmed text changes nothing. -/
theorem trimList_trimList (cs : List Char) : trimList (trimList cs) = trimList cs := by
  simp only [trimList_eq]
  -- what is left after the leading blanks starts with no blank, and so does its part
  -- before the trailing blanks
  have hstart : ((cs.dropWhile isBlank).rdropWhile isBlank).dropWhile isBlank =
      (cs.dropWhile isBlank).rdropWhile isBlank := by
    rw [List.dropWhile_eq_self_iff]
    intro hl
    have hne : (cs.dropWhile isBlank).rdropWhile isBlank ≠ [] := List.ne_nil_of_length_pos hl
    have hpre := (List.rdropWhile_prefix (p := isBlank) (l := cs.dropWhile isBlank))
    have hne' : cs.dropWhile isBlank ≠ [] := fun h => hne (by simp [h])
    have hhead := List.IsPrefix.head hpre hne
    have := List.head_dropWhile_not isBlank hne'
    rw [← List.head_eq_getElem hne, hhead]
    simpa using this
  rw [hstart, List.rdropWhile_idempotent]

theorem trim_trim (s : String) : trim (trim s) = trim s := by
  simp [trim, trimList_trimList]

end Text

/-! ### Reading a qualified mode -/

namespace QualifiedMode

/-- A trimmed piece is read as a mode other than the bicycle: the piece that names the
bicycle is read as micromobility before the names of the modes are looked up. -/
theorem modeOf_trim_ne_bicycle {p : String} {m : TravelMode}
    (h : modeOf (Text.trim p) = .ok m) : m ≠ .bicycle := by
  rintro rfl
  unfold modeOf at h
  split at h
  · cases h
  · next hb =>
    -- looking the name up trims the piece again, which changes nothing
    unfold TravelMode.ofName? at h
    rw [Text.trim_trim] at h
    cases hu : Text.upperAscii? (Text.trim p) with
    | none => simp [hu] at h
    | some u =>
      simp only [hu, Option.bind_some] at h
      split at h
      · next hm =>
        obtain rfl := Except.ok.inj h
        have hname : TravelMode.bicycle.name = u :=
          (by simpa [TravelMode.ofExactName?, TravelMode.all] using hm : _ ∧ _).2
        exact hb (hu.trans (by rw [← hname]; rfl))
      · cases h

/-- The qualifiers of a list, each once, in their order. -/
theorem mem_normalize {qs : List Qualifier} {x : Qualifier} : x ∈ normalize qs ↔ x ∈ qs := by
  cases x <;> simp [normalize, Qualifier.all]

theorem nodup_normalize (qs : List Qualifier) : (normalize qs).Nodup :=
  List.Nodup.filter _ (by decide)

/-- How a further piece of a token is read: as the qualifier it names, an unknown one
reported as written, with the whole token. -/
def readQualifier (t p : String) : Except RequestError Qualifier :=
  match Qualifier.ofName? p with
  | some q => .ok q
  | none => .error (.unknownQualifier p t)

theorem parse_eq (t : String) :
    parse t = (do
      let mode ← modeOf (Text.trim ((t.splitOn "_").headD ""))
      let qualifiers ← (t.splitOn "_").tail.mapM (readQualifier t)
      return ⟨mode, normalize qualifiers⟩) := by
  unfold parse
  -- compared case by case, the qualifier's name is never evaluated on an unknown piece
  refine congrArg (bind _) (funext fun mode => ?_)
  refine congrArg (fun r => bind r _) ?_
  refine congrArg (fun g => List.mapM g (t.splitOn "_").tail) (funext fun p => ?_)
  unfold readQualifier
  cases Qualifier.ofName? p <;> rfl

theorem readQualifier_eq_ok_iff (t p : String) (x : Qualifier) :
    readQualifier t p = .ok x ↔ Qualifier.ofName? p = some x := by
  unfold readQualifier
  cases Qualifier.ofName? p <;> simp

theorem readQualifier_eq_error_iff (t p : String) (e : RequestError) :
    readQualifier t p = .error e ↔ Qualifier.ofName? p = none ∧ e = .unknownQualifier p t := by
  unfold readQualifier
  cases Qualifier.ofName? p <;> simp [eq_comm]

/-- A qualified mode is read when its trimmed first piece is a mode and every further piece a
qualifier; its qualifiers are those the pieces name. -/
theorem parse_eq_ok_iff (t : String) (q : QualifiedMode) :
    parse t = .ok q ↔
      modeOf (Text.trim ((t.splitOn "_").headD "")) = .ok q.mode ∧
        ∃ qs, List.Forall₂ (fun p x => Qualifier.ofName? p = some x) (t.splitOn "_").tail qs ∧
          q.qualifiers = normalize qs := by
  rw [parse_eq]
  simp only [except_bind_eq_ok_iff, mapM_except_eq_ok_iff, readQualifier_eq_ok_iff, pure,
    Except.pure, Except.ok.injEq]
  constructor
  · rintro ⟨m, hm, qs, hqs, rfl⟩
    exact ⟨hm, qs, hqs, rfl⟩
  · rintro ⟨hm, qs, hqs, hq⟩
    exact ⟨q.mode, hm, qs, hqs, by rw [← hq]⟩

/-- A qualified mode fails on its mode first, then on its first unknown qualifier, which is
reported as written, with the whole token. -/
theorem parse_eq_error_iff (t : String) (e : RequestError) :
    parse t = .error e ↔
      modeOf (Text.trim ((t.splitOn "_").headD "")) = .error e ∨
        ((∃ m, modeOf (Text.trim ((t.splitOn "_").headD "")) = .ok m) ∧
          ∃ pre p post, (t.splitOn "_").tail = pre ++ p :: post ∧
            (∀ p' ∈ pre, ∃ x, Qualifier.ofName? p' = some x) ∧ Qualifier.ofName? p = none ∧
            e = .unknownQualifier p t) := by
  rw [parse_eq]
  simp only [except_bind_eq_error_iff, mapM_except_eq_error_iff, readQualifier_eq_ok_iff,
    readQualifier_eq_error_iff, pure, Except.pure, reduceCtorEq, and_false, exists_false,
    or_false]
  constructor
  · rintro (hm | ⟨m, hm, hqs⟩)
    · exact .inl hm
    · obtain ⟨pre, p, post, hsplit, hpre, hp, rfl⟩ := hqs
      exact .inr ⟨⟨m, hm⟩, pre, p, post, hsplit, hpre, hp, rfl⟩
  · rintro (hm | ⟨⟨m, hm⟩, pre, p, post, hsplit, hpre, hp, rfl⟩)
    · exact .inl hm
    · exact .inr ⟨m, hm, pre, p, post, hsplit, hpre, hp, rfl⟩

/-! ### Applying a qualified mode -/

/-- A qualified mode adds its mode, and walking where it rents a micromobility vehicle or is a
car next to transit. -/
theorem contains_apply_fst (q : QualifiedMode) (usingTransit : Bool) (modes : ModeSet)
    (rental : Bool) (x : TravelMode) :
    (q.apply usingTransit modes rental).1.contains x = true ↔
      modes.contains x = true ∨ x = q.mode ∨
        (x = .walk ∧ ((q.mode = .micromobility ∧ .rent ∈ q.qualifiers) ∨
          (q.mode = .car ∧ usingTransit = true))) := by
  obtain ⟨mode, qualifiers⟩ := q
  -- only a rented micromobility vehicle, or a car next to transit, brings walking in
  cases mode
  case micromobility =>
    by_cases hrent : Qualifier.rent ∈ qualifiers <;>
      simp [apply, hrent, or_assoc, or_comm, or_left_comm]
  case car => cases usingTransit <;> simp [apply, or_assoc, or_comm, or_left_comm]
  all_goals simp [apply, or_comm]

/-- A qualified mode turns rental on where it rents a micromobility vehicle. -/
theorem apply_snd (q : QualifiedMode) (usingTransit : Bool) (modes : ModeSet) (rental : Bool) :
    (q.apply usingTransit modes rental).2 = true ↔
      rental = true ∨ (q.mode = .micromobility ∧ .rent ∈ q.qualifiers) := by
  obtain ⟨mode, qualifiers⟩ := q
  cases mode
  case micromobility => by_cases hrent : Qualifier.rent ∈ qualifiers <;> simp [apply, hrent]
  case car => cases usingTransit <;> simp [apply]
  all_goals simp [apply]

end QualifiedMode

/-! ### Reading and applying a mode string -/

namespace ModeString

/-- The tokens of a mode string: its pieces between commas, trimmed, the empty ones left
out. -/
def tokens (s : String) : List String := ((s.splitOn ",").map Text.trim).filter (· ≠ "")

theorem parse_eq (s : String) :
    parse s = (do
      let modes ← (tokens s).mapM QualifiedMode.parse
      if modes.isEmpty then throw .emptyModes
      return ⟨modes⟩) := rfl

/-- A mode string is read when it has tokens and each of them is read; its qualified modes
are those of its tokens, in order. -/
theorem parse_eq_ok_iff (s : String) (m : ModeString) :
    parse s = .ok m ↔ tokens s ≠ [] ∧
      List.Forall₂ (fun t q => QualifiedMode.parse t = .ok q) (tokens s) m.modes := by
  rw [parse_eq, ← mapM_except_eq_ok_iff, except_bind_eq_ok_iff]
  constructor
  · rintro ⟨qs, hqs, hif⟩
    split at hif
    · simp [throw, throwThe, MonadExceptOf.throw, bind, Except.bind] at hif
    · next h =>
      obtain rfl : m = ⟨qs⟩ := (Except.ok.inj hif).symm
      refine ⟨fun ht => h ?_, hqs⟩
      rw [List.isEmpty_iff, ← List.length_eq_zero_iff, length_of_mapM_except _ hqs, ht, List.length_nil]
  · rintro ⟨hne, hqs⟩
    refine ⟨m.modes, hqs, ?_⟩
    have hlen : m.modes.length ≠ 0 := by
      rw [length_of_mapM_except _ hqs]
      exact fun h => hne (List.length_eq_zero_iff.1 h)
    rw [if_neg (by simpa [List.isEmpty_iff, ← List.length_eq_zero_iff] using hlen)]
    rfl

/-- A mode string without tokens names no mode; otherwise it fails with the error of its first
token that cannot be read, every token before it having been read. -/
theorem parse_eq_error_iff (s : String) (e : RequestError) :
    parse s = .error e ↔ (tokens s = [] ∧ e = .emptyModes) ∨
      ∃ pre t post, tokens s = pre ++ t :: post ∧
        (∀ t' ∈ pre, ∃ q, QualifiedMode.parse t' = .ok q) ∧ QualifiedMode.parse t = .error e := by
  rw [parse_eq, except_bind_eq_error_iff, mapM_except_eq_error_iff]
  constructor
  · rintro (hfirst | ⟨qs, hqs, hif⟩)
    · exact .inr hfirst
    · split at hif
      · next h =>
        -- the traversal read every token and found none
        have hnil : tokens s = [] := by
          rw [← List.length_eq_zero_iff, ← length_of_mapM_except _ hqs,
            List.length_eq_zero_iff, ← List.isEmpty_iff, h]
        refine .inl ⟨hnil, ?_⟩
        simpa [throw, throwThe, MonadExceptOf.throw, bind, Except.bind, eq_comm] using hif
      · simp [pure, Except.pure] at hif
  · rintro (⟨ht, rfl⟩ | hfirst)
    · refine .inr ⟨[], by rw [ht]; rfl, ?_⟩
      simp [throw, throwThe, MonadExceptOf.throw, bind, Except.bind]
    · exact .inl hfirst

/-- No mode a mode string is read as is the bicycle. -/
theorem mode_ne_bicycle_of_parse {s : String} {m : ModeString} (h : parse s = .ok m) :
    ∀ q ∈ m.modes, q.mode ≠ .bicycle := by
  intro q hq
  obtain ⟨-, hall⟩ := (parse_eq_ok_iff s m).1 h
  obtain ⟨t, -, ht⟩ := exists_of_forall₂_of_mem hall hq
  exact QualifiedMode.modeOf_trim_ne_bicycle ((QualifiedMode.parse_eq_ok_iff t q).1 ht).1

/-- Applying qualified modes one after another: a mode is chosen where it was already, or
where one of them brings it in. -/
theorem contains_foldl_apply (usingTransit : Bool) (qs : List QualifiedMode)
    (acc : ModeSet × Bool) (x : TravelMode) :
    (qs.foldl (fun acc q => q.apply usingTransit acc.1 acc.2) acc).1.contains x = true ↔
      acc.1.contains x = true ∨ ∃ q ∈ qs, x = q.mode ∨
        (x = .walk ∧ ((q.mode = .micromobility ∧ .rent ∈ q.qualifiers) ∨
          (q.mode = .car ∧ usingTransit = true))) := by
  induction qs generalizing acc with
  | nil => simp
  | cons q qs ih =>
    rw [List.foldl_cons, ih, QualifiedMode.contains_apply_fst]
    simp only [List.mem_cons, exists_eq_or_imp, or_assoc]

/-- Applying qualified modes one after another: rental is on where it was on already, or
where one of them rents a micromobility vehicle. -/
theorem snd_foldl_apply (usingTransit : Bool) (qs : List QualifiedMode) (acc : ModeSet × Bool) :
    (qs.foldl (fun acc q => q.apply usingTransit acc.1 acc.2) acc).2 = true ↔
      acc.2 = true ∨ ∃ q ∈ qs, q.mode = .micromobility ∧ .rent ∈ q.qualifiers := by
  induction qs generalizing acc with
  | nil => simp
  | cons q qs ih =>
    rw [List.foldl_cons, ih, QualifiedMode.apply_snd]
    simp only [List.mem_cons, exists_eq_or_imp, or_assoc]

/-- The string names transit. -/
theorem usesTransit_iff (m : ModeString) :
    m.usesTransit = true ↔ ∃ q ∈ m.modes, q.mode = .transit := by
  simp only [usesTransit, List.any_eq_true]
  refine exists_congr fun q => and_congr_right fun _ => ?_
  cases q.mode <;> simp [TravelMode.isTransit]

end ModeString

/-! ### Choosing a request's modes -/

namespace ModeSet

/-- Two sets with the same modes are equal. -/
theorem ext_contains {s t : ModeSet} (h : ∀ x, s.contains x = t.contains x) : s = t := by
  have hw := h .walk
  have hb := h .bicycle
  have hc := h .car
  have hm := h .micromobility
  have ht := h .transit
  cases s
  cases t
  simp_all [contains]

end ModeSet

namespace Request

variable (r : Request) (m : ModeString)

/-- A mode string changes a request's modes and rental, and nothing else. -/
theorem withModeString_eq :
    r.withModeString m =
      { r with modes := (m.apply r.allowRental).1, allowRental := (m.apply r.allowRental).2 } :=
  rfl

/-- The modes a mode string chooses: those it names, with walking where it rents a
micromobility vehicle or names a car next to transit. -/
theorem contains_withModeString_modes (x : TravelMode) :
    (r.withModeString m).modes.contains x = true ↔ (∃ q ∈ m.modes, q.mode = x) ∨
      (x = .walk ∧ ((∃ q ∈ m.modes, q.mode = .micromobility ∧ .rent ∈ q.qualifiers) ∨
        ((∃ q ∈ m.modes, q.mode = .car) ∧ ∃ q ∈ m.modes, q.mode = .transit))) := by
  show (m.apply r.allowRental).1.contains x = true ↔ _
  rw [ModeString.apply, ModeString.contains_foldl_apply, ModeString.usesTransit_iff]
  simp only [ModeSet.contains_empty, Bool.false_eq_true, false_or]
  constructor
  · rintro ⟨q, hq, rfl | ⟨rfl, hrent | ⟨hcar, htransit⟩⟩⟩
    · exact .inl ⟨q, hq, rfl⟩
    · exact .inr ⟨rfl, .inl ⟨q, hq, hrent⟩⟩
    · exact .inr ⟨rfl, .inr ⟨⟨q, hq, hcar⟩, htransit⟩⟩
  · rintro (⟨q, hq, rfl⟩ | ⟨rfl, ⟨q, hq, hrent⟩ | ⟨⟨q, hq, hcar⟩, htransit⟩⟩)
    · exact ⟨q, hq, .inl rfl⟩
    · exact ⟨q, hq, .inr ⟨rfl, .inl hrent⟩⟩
    · exact ⟨q, hq, .inr ⟨rfl, .inr ⟨hcar, htransit⟩⟩⟩

/-- A mode string turns rental on where it rents a micromobility vehicle, and never off. -/
theorem withModeString_allowRental :
    (r.withModeString m).allowRental = true ↔ r.allowRental = true ∨
      ∃ q ∈ m.modes, q.mode = .micromobility ∧ .rent ∈ q.qualifiers := by
  show (m.apply r.allowRental).2 = true ↔ _
  rw [ModeString.apply, ModeString.snd_foldl_apply]

/-- The order of a mode string's tokens does not matter. -/
theorem withModeString_perm {m' : ModeString} (h : m'.modes.Perm m.modes) :
    r.withModeString m' = r.withModeString m := by
  have hmodes : (r.withModeString m').modes = (r.withModeString m).modes := by
    refine ModeSet.ext_contains fun x => Bool.eq_iff_iff.2 ?_
    simp only [contains_withModeString_modes, h.mem_iff]
  have hrental : (r.withModeString m').allowRental = (r.withModeString m).allowRental := by
    refine Bool.eq_iff_iff.2 ?_
    simp only [withModeString_allowRental, h.mem_iff]
  simp only [withModeString_eq] at hmodes hrental ⊢
  rw [hmodes, hrental]

end Request

/-- Reading a mode string fails for want of tokens or on its first token that cannot be read,
a token failing on its mode before its first unknown qualifier; what it reads names no
bicycle and each qualifier once.  Applied to a request, a mode string chooses the modes it
names, walking for a rented micromobility vehicle or for a car next to transit, and turns
rental on for a rented micromobility vehicle, changing nothing else and whatever the order of
its tokens. -/
theorem mode_strings_read_and_apply (s : String) (r : Request) :
    (∀ e, ModeString.parse s = .error e ↔ (ModeString.tokens s = [] ∧ e = .emptyModes) ∨
      ∃ pre t post, ModeString.tokens s = pre ++ t :: post ∧
        (∀ t' ∈ pre, ∃ q, QualifiedMode.parse t' = .ok q) ∧ QualifiedMode.parse t = .error e) ∧
    (∀ m, ModeString.parse s = .ok m ↔ ModeString.tokens s ≠ [] ∧
      List.Forall₂ (fun t q => QualifiedMode.parse t = .ok q) (ModeString.tokens s) m.modes) ∧
    (∀ t e, QualifiedMode.parse t = .error e ↔
      QualifiedMode.modeOf (Text.trim ((t.splitOn "_").headD "")) = .error e ∨
        ((∃ m, QualifiedMode.modeOf (Text.trim ((t.splitOn "_").headD "")) = .ok m) ∧
          ∃ pre p post, (t.splitOn "_").tail = pre ++ p :: post ∧
            (∀ p' ∈ pre, ∃ x, Qualifier.ofName? p' = some x) ∧ Qualifier.ofName? p = none ∧
            e = .unknownQualifier p t)) ∧
    (∀ t q, QualifiedMode.parse t = .ok q ↔
      QualifiedMode.modeOf (Text.trim ((t.splitOn "_").headD "")) = .ok q.mode ∧
        ∃ qs, List.Forall₂ (fun p x => Qualifier.ofName? p = some x) (t.splitOn "_").tail qs ∧
          q.qualifiers = QualifiedMode.normalize qs) ∧
    (∀ qs, (QualifiedMode.normalize qs).Nodup ∧ ∀ x, x ∈ QualifiedMode.normalize qs ↔ x ∈ qs) ∧
    (∀ m, ModeString.parse s = .ok m → ∀ q ∈ m.modes, q.mode ≠ .bicycle) ∧
    ∀ m, (∀ x, (r.withModeString m).modes.contains x = true ↔ (∃ q ∈ m.modes, q.mode = x) ∨
        (x = .walk ∧ ((∃ q ∈ m.modes, q.mode = .micromobility ∧ .rent ∈ q.qualifiers) ∨
          ((∃ q ∈ m.modes, q.mode = .car) ∧ ∃ q ∈ m.modes, q.mode = .transit)))) ∧
      ((r.withModeString m).allowRental = true ↔ r.allowRental = true ∨
        ∃ q ∈ m.modes, q.mode = .micromobility ∧ .rent ∈ q.qualifiers) ∧
      (∃ modes rental, r.withModeString m = { r with modes := modes, allowRental := rental }) ∧
      ∀ m' : ModeString, m'.modes.Perm m.modes → r.withModeString m' = r.withModeString m := by
  refine ⟨ModeString.parse_eq_error_iff s, ModeString.parse_eq_ok_iff s,
    QualifiedMode.parse_eq_error_iff, QualifiedMode.parse_eq_ok_iff,
    fun qs => ⟨QualifiedMode.nodup_normalize qs, fun _ => QualifiedMode.mem_normalize⟩,
    fun _ h => ModeString.mode_ne_bicycle_of_parse h, fun m => ?_⟩
  exact ⟨Request.contains_withModeString_modes r m, Request.withModeString_allowRental r m,
    ⟨_, _, Request.withModeString_eq r m⟩, fun _ h => Request.withModeString_perm r m h⟩

/-- Walking and a rented micromobility vehicle choose the same request in either order. -/
theorem rented_scooter_and_walk_either_order :
    ({} : Request).withModeString ⟨[⟨.micromobility, [.rent]⟩, ⟨.walk, []⟩]⟩ =
      ({} : Request).withModeString ⟨[⟨.walk, []⟩, ⟨.micromobility, [.rent]⟩]⟩ :=
  ((mode_strings_read_and_apply "walk" {}).2.2.2.2.2.2 _).2.2.2 _
    (List.Perm.swap (⟨.walk, []⟩ : QualifiedMode) ⟨.micromobility, [.rent]⟩ [])

end RentalRouting
