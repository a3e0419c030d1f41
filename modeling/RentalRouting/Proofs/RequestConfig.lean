/-
RentalRouting/Proofs/RequestConfig.lean

Making a request from a configuration.  The eight numbers of a configuration are checked in
a fixed order (`RequestConfig.numbers`): the minimum rental distance and the pick-up and
drop-off costs and times must be finite and not below zero, the walk and micromobility
speeds and the walk reluctance finite and above zero.  The first number given that misses
its bound is the error, named by its field; only when all pass is the mode string read.  A
request made (`RequestConfig.Builds`) holds the direction, the availability flag, every
number given and the default request's elsewhere, the default bicycle and car speeds, the
trimmed provider names and the kinds of the vehicle tokens, each once, and the modes and
rental that the mode string chooses for a request without rental
(`config_checks_numbers_then_modes`).
-/
import Mathlib
import RentalRouting.Request.Config
import RentalRouting.Proofs.ModeString
import RentalRouting.Proofs.Updater

namespace RentalRouting

/-! ### Sets of vehicle kinds -/

namespace VehicleKind

theorem mem_insertByToken (k j : VehicleKind) (kinds : List VehicleKind) :
    j ∈ insertByToken k kinds ↔ j = k ∨ j ∈ kinds := by
  induction kinds with
  | nil => simp [insertByToken]
  | cons head rest ih =>
    unfold insertByToken
    split
    · simp
    · split
      · next heq => subst heq; simp
      · simp only [List.mem_cons, ih]
        tauto

theorem token_injective : Function.Injective token := by
  intro a b
  cases a <;> cases b <;> decide

theorem pairwise_insertByToken (k : VehicleKind) {kinds : List VehicleKind}
    (h : kinds.Pairwise (·.token < ·.token)) :
    (insertByToken k kinds).Pairwise (·.token < ·.token) := by
  induction kinds with
  | nil => simp [insertByToken]
  | cons j rest ih =>
    obtain ⟨hj, hrest⟩ := List.pairwise_cons.1 h
    unfold insertByToken
    split
    · next hlt =>
      refine List.Pairwise.cons (fun x hx => ?_) h
      rcases List.mem_cons.1 hx with rfl | hx
      · exact hlt
      · exact lt_trans hlt (hj x hx)
    · split
      · exact h
      · -- the kind goes after `j`, whose token is below its own and below the rest
        next hlt hne =>
        have hgt : j.token < k.token :=
          lt_of_le_of_ne (not_lt.1 hlt) fun h => hne (token_injective h).symm
        refine List.Pairwise.cons (fun x hx => ?_) (ih hrest)
        rcases (mem_insertByToken k x rest).1 hx with rfl | hx
        · exact hgt
        · exact hj x hx

theorem mem_setOf {k : VehicleKind} {kinds : List VehicleKind} : k ∈ setOf kinds ↔ k ∈ kinds := by
  suffices h : ∀ acc : List VehicleKind,
      k ∈ kinds.foldl (fun acc j => insertByToken j acc) acc ↔ k ∈ acc ∨ k ∈ kinds by
    simpa [setOf] using h []
  induction kinds with
  | nil => simp
  | cons j rest ih =>
    intro acc
    rw [List.foldl_cons, ih, mem_insertByToken]
    simp only [List.mem_cons]
    tauto

theorem nodup_setOf (kinds : List VehicleKind) : (setOf kinds).Nodup := by
  suffices h : ∀ acc : List VehicleKind, acc.Pairwise (·.token < ·.token) →
      (kinds.foldl (fun acc j => insertByToken j acc) acc).Pairwise (·.token < ·.token) from
    (h [] List.Pairwise.nil).imp fun hlt heq => (ne_of_lt hlt) (congrArg token heq)
  induction kinds with
  | nil => exact fun _ h => h
  | cons j rest ih => exact fun acc h => ih _ (pairwise_insertByToken j h)

end VehicleKind

/-! ### The numbers of a configuration -/

/-- The numbers of a request, in the order a configuration checks them. -/
def Request.numbers (r : Request) : List Float :=
  [r.minimumRentalDistance, r.pickupCost, r.pickupTime, r.dropoffCost, r.dropoffTime,
    r.walkSpeed, r.micromobilitySpeed, r.walkReluctance]

namespace RequestConfig

/-- What a number of a configuration must be. -/
inductive Bound where
  /-- Finite and not below zero: the distance, costs and times. -/
  | nonNegative
  /-- Finite and above zero: the speeds and the walk reluctance. -/
  | positive

namespace Bound

/-- The check of a bound. -/
def check : Bound → String → Float → Except RequestError Float
  | .nonNegative => RequestConfig.nonNegative
  | .positive => RequestConfig.positive

/-- A number meets the bound. -/
def admits : Bound → Float → Bool
  | .nonNegative, v => v.isFinite && v ≥ 0
  | .positive, v => v.isFinite && v > 0

/-- What the error says of a number that misses the bound. -/
def complaint : Bound → Float → String
  | .nonNegative, v => "expected a finite value >= 0, found " ++ FloatStyle.plain.render v
  | .positive, v => "expected a finite value > 0, found " ++ FloatStyle.plain.render v

theorem check_eq (b : Bound) (name : String) (v : Float) :
    b.check name v =
      if b.admits v then .ok v else .error (.invalidParameter name (b.complaint v)) := by
  cases b <;> rfl

end Bound

/-- A number of a configuration: the name of its field, its value if given, and its bound. -/
structure Number where
  name : String
  value : Option Float
  bound : Bound

namespace Number

/-- The number is absent or within its bound. -/
def Passes (x : Number) : Prop := ∀ v, x.value = some v → x.bound.admits v = true

/-- The number is given and misses its bound. -/
def rejected (x : Number) : Bool :=
  match x.value with
  | some v => !x.bound.admits v
  | none => false

/-- The error of a number that misses its bound. -/
def error (x : Number) : RequestError :=
  .invalidParameter x.name (x.bound.complaint (x.value.getD 0))

theorem passes_iff (x : Number) : x.Passes ↔ x.rejected = false := by
  obtain ⟨name, _ | v, b⟩ := x <;> simp [Passes, rejected]

end Number

/-- The numbers of a configuration, in the order they are checked. -/
def numbers (c : RequestConfig) : List Number :=
  [⟨"minimum_vehicle_rental_distance_meters", c.minimumRentalDistance, .nonNegative⟩,
   ⟨"vehicle_rental_pickup_cost", c.pickupCost, .nonNegative⟩,
   ⟨"vehicle_rental_pickup_time_seconds", c.pickupTime, .nonNegative⟩,
   ⟨"vehicle_rental_dropoff_cost", c.dropoffCost, .nonNegative⟩,
   ⟨"vehicle_rental_dropoff_time_seconds", c.dropoffTime, .nonNegative⟩,
   ⟨"walk_speed_meters_per_second", c.walkSpeed, .positive⟩,
   ⟨"micromobility_speed_meters_per_second", c.micromobilitySpeed, .positive⟩,
   ⟨"walk_reluctance", c.walkReluctance, .positive⟩]

/-- Checking a number and going on: a given number that misses its bound is the error, and
otherwise the check goes on with the number, or with the fallback when none is given. -/
theorem checked_bind {β : Type} (b : Bound) (name : String) (v : Option Float) (fallback : Float)
    (k : Float → Except RequestError β) :
    (checked b.check name v fallback >>= k) =
      if (Number.mk name v b).rejected then .error (Number.mk name v b).error
      else k (v.getD fallback) := by
  cases v with
  | none => rfl
  | some v =>
    simp only [checked, Bound.check_eq, Number.rejected, Number.error, Option.getD_some]
    by_cases h : b.admits v = true <;> simp [h, bind, Except.bind]

theorem checked_nonNegative_bind {β : Type} (name : String) (v : Option Float) (fallback : Float)
    (k : Float → Except RequestError β) :
    (checked nonNegative name v fallback >>= k) =
      if (Number.mk name v .nonNegative).rejected then .error (Number.mk name v .nonNegative).error
      else k (v.getD fallback) :=
  checked_bind .nonNegative name v fallback k

theorem checked_positive_bind {β : Type} (name : String) (v : Option Float) (fallback : Float)
    (k : Float → Except RequestError β) :
    (checked positive name v fallback >>= k) =
      if (Number.mk name v .positive).rejected then .error (Number.mk name v .positive).error
      else k (v.getD fallback) :=
  checked_bind .positive name v fallback k

/-- The first rejected number of a list, read off a split of the list: every number before
it passes, and it is given and misses its bound. -/
theorem exists_first_rejected_iff (xs : List Number) (e : RequestError) :
    (∃ pre x v post, xs = pre ++ x :: post ∧ (∀ y ∈ pre, y.Passes) ∧ x.value = some v ∧
        x.bound.admits v = false ∧ e = .invalidParameter x.name (x.bound.complaint v)) ↔
      ∃ x, xs.find? (·.rejected) = some x ∧ e = x.error := by
  constructor
  · rintro ⟨pre, x, v, post, rfl, hpre, hv, hbad, rfl⟩
    refine ⟨x, List.find?_eq_some_iff_append.2 ⟨?_, pre, post, rfl, fun y hy => ?_⟩, ?_⟩
    · simp [Number.rejected, hv, hbad]
    · simp [(Number.passes_iff y).1 (hpre y hy)]
    · simp [Number.error, hv]
  · rintro ⟨x, hx, rfl⟩
    obtain ⟨hrejected, pre, post, rfl, hpre⟩ := List.find?_eq_some_iff_append.1 hx
    -- a rejected number is given
    obtain ⟨v, hv, hbad⟩ : ∃ v, x.value = some v ∧ x.bound.admits v = false := by
      obtain ⟨name, _ | v, b⟩ := x
      · cases hrejected
      · exact ⟨v, rfl, by simpa [Number.rejected] using hrejected⟩
    exact ⟨pre, x, v, post, rfl, fun y hy => (Number.passes_iff y).2 (by simpa using hpre y hy),
      hv, hbad, by simp [Number.error, hv]⟩

/-- A configuration whose numbers include one that misses its bound fails with the first
such number. -/
theorem toRequest_of_rejected {c : RequestConfig} {x : Number}
    (h : c.numbers.find? (·.rejected) = some x) : c.toRequest = .error x.error := by
  simp only [numbers, List.find?_cons, List.find?_nil] at h
  simp only [toRequest, checked_nonNegative_bind, checked_positive_bind]
  -- one case for each number that can be the first rejected one, and one where none is
  repeat' split at h
  all_goals cases h
  all_goals simp_all

/-- A configuration whose numbers all pass reads its mode string, and succeeds with the
request it describes or fails with the mode string's error. -/
theorem toRequest_of_passes {c : RequestConfig} (h : ∀ x ∈ c.numbers, x.Passes) :
    ∃ base : Request, base.allowRental = false ∧
      base.direction = (if c.arriveBy then .arriveBy else .departAt) ∧
      base.useAvailability = c.useAvailability ∧
      base.numbers = List.zipWith (fun x d => x.value.getD d) c.numbers ({} : Request).numbers ∧
      base.bikeSpeed = ({} : Request).bikeSpeed ∧ base.carSpeed = ({} : Request).carSpeed ∧
      base.allowedProviders = c.allowedProviders.map (fun ns => nameSet (ns.map Text.trim)) ∧
      base.bannedProviders = c.bannedProviders.map (fun ns => nameSet (ns.map Text.trim)) ∧
      base.allowedVehicles =
        c.allowedVehicles.map (fun ts => VehicleKind.setOf (ts.map VehicleKind.ofToken)) ∧
      base.bannedVehicles =
        c.bannedVehicles.map (fun ts => VehicleKind.setOf (ts.map VehicleKind.ofToken)) ∧
      c.toRequest = ModeString.parse c.modes >>= fun m => pure (base.withModeString m) := by
  simp only [numbers, List.mem_cons, List.not_mem_nil, or_false, forall_eq_or_imp, forall_eq,
    Number.passes_iff] at h
  obtain ⟨h1, h2, h3, h4, h5, h6, h7, h8⟩ := h
  simp only [toRequest, checked_nonNegative_bind, checked_positive_bind, h1, h2, h3, h4, h5, h6,
    h7, h8]
  refine ⟨_, ?_, ?_, ?_, ?_, ?_, ?_, ?_, ?_, ?_, ?_, rfl⟩
  · rfl
  · rfl
  · rfl
  · simp [numbers, Request.numbers]
  · rfl
  · simp
  · rfl
  · rfl
  · rfl
  · rfl

/-- A request made from a configuration and the mode string read from it: the direction it
asks for, its availability flag, each of its numbers or else the default request's, the
default bicycle and car speeds, the trimmed provider names and the kinds of the vehicle
tokens, each once, and the modes and rental of the mode string applied without rental. -/
structure Builds (c : RequestConfig) (m : ModeString) (r : Request) : Prop where
  direction : r.direction = if c.arriveBy then .arriveBy else .departAt
  useAvailability : r.useAvailability = c.useAvailability
  numbers : r.numbers = List.zipWith (fun x d => x.value.getD d) c.numbers ({} : Request).numbers
  bikeSpeed : r.bikeSpeed = ({} : Request).bikeSpeed
  carSpeed : r.carSpeed = ({} : Request).carSpeed
  allowedProviders : Option.Rel (fun names set => set.Perm (names.map Text.trim).dedup)
    c.allowedProviders r.allowedProviders
  bannedProviders : Option.Rel (fun names set => set.Perm (names.map Text.trim).dedup)
    c.bannedProviders r.bannedProviders
  allowedVehicles : Option.Rel (fun tokens set => set.Perm (tokens.map VehicleKind.ofToken).dedup)
    c.allowedVehicles r.allowedVehicles
  bannedVehicles : Option.Rel (fun tokens set => set.Perm (tokens.map VehicleKind.ofToken).dedup)
    c.bannedVehicles r.bannedVehicles
  modes : (r.modes, r.allowRental) = m.apply false

theorem nameSet_perm_dedup (names : List String) : (nameSet names).Perm names.dedup :=
  (List.perm_ext_iff_of_nodup (nodup_nameSet names) (List.nodup_dedup names)).2 fun n => by
    simp [List.mem_dedup]

theorem setOf_perm_dedup (kinds : List VehicleKind) :
    (VehicleKind.setOf kinds).Perm kinds.dedup :=
  (List.perm_ext_iff_of_nodup (VehicleKind.nodup_setOf kinds) (List.nodup_dedup kinds)).2
    fun k => by simp [VehicleKind.mem_setOf, List.mem_dedup]

theorem rel_map {α β : Type} {R : α → β → Prop} {f : α → β} (hf : ∀ a, R a (f a)) :
    ∀ o : Option α, Option.Rel R o (o.map f)
  | none => .none
  | some a => .some (hf a)

end RequestConfig

/-- Making a request from a configuration checks its numbers in the order distance, pick-up
cost, pick-up time, drop-off cost, drop-off time (finite and not below zero), walk speed,
micromobility speed, walk reluctance (finite and above zero): the first number given that
misses its bound is the error, named by its field.  Only when all pass is the mode string
read, and its error is the error.  A request made takes the direction, the availability
flag and every number given, the default request's numbers, bicycle and car speeds
elsewhere, the trimmed provider names and the kinds of the vehicle tokens as sets, and the
modes and rental that the mode string chooses for a request without rental. -/
theorem config_checks_numbers_then_modes (c : RequestConfig) :
    (∀ e, c.toRequest = .error e ↔
      (∃ pre x v post, c.numbers = pre ++ x :: post ∧ (∀ y ∈ pre, y.Passes) ∧
        x.value = some v ∧ x.bound.admits v = false ∧
        e = .invalidParameter x.name (x.bound.complaint v)) ∨
      ((∀ x ∈ c.numbers, x.Passes) ∧ ModeString.parse c.modes = .error e)) ∧
    ∀ r, c.toRequest = .ok r →
      (∀ x ∈ c.numbers, x.Passes) ∧ ∃ m, ModeString.parse c.modes = .ok m ∧
        RequestConfig.Builds c m r := by
  simp only [RequestConfig.exists_first_rejected_iff]
  rcases hfirst : c.numbers.find? (·.rejected) with _ | x
  · -- every number passes: the mode string decides
    have hpass : ∀ x ∈ c.numbers, x.Passes := fun x hx => (RequestConfig.Number.passes_iff x).2
      (by simpa using List.find?_eq_none.1 hfirst x hx)
    obtain ⟨base, hrental, hdirection, havail, hnumbers, hbike, hcar, hallowed, hbanned,
      hallowedKinds, hbannedKinds, hrequest⟩ := RequestConfig.toRequest_of_passes hpass
    refine ⟨fun e => ?_, fun r hr => ⟨hpass, ?_⟩⟩
    · rw [hrequest]
      simp only [hfirst, reduceCtorEq, false_and, exists_false, false_or, and_iff_right hpass]
      cases ModeString.parse c.modes <;> simp [bind, Except.bind, pure, Except.pure]
    · rw [hrequest] at hr
      rcases hparse : ModeString.parse c.modes with e | m
      · rw [hparse] at hr
        cases hr
      · rw [hparse] at hr
        cases hr
        rw [Request.withModeString_eq]
        refine ⟨m, rfl, ⟨hdirection, havail, hnumbers, hbike, hcar, ?_, ?_, ?_, ?_, ?_⟩⟩
        · rw [hallowed]
          refine RequestConfig.rel_map (fun _ => ?_) _
          exact RequestConfig.nameSet_perm_dedup _
        · rw [hbanned]
          refine RequestConfig.rel_map (fun _ => ?_) _
          exact RequestConfig.nameSet_perm_dedup _
        · rw [hallowedKinds]
          refine RequestConfig.rel_map (fun _ => ?_) _
          exact RequestConfig.setOf_perm_dedup _
        · rw [hbannedKinds]
          refine RequestConfig.rel_map (fun _ => ?_) _
          exact RequestConfig.setOf_perm_dedup _
        · rw [hrental]
  · -- a number is rejected: the first one is the error
    have hrequest := RequestConfig.toRequest_of_rejected hfirst
    have hfails : ¬ ∀ y ∈ c.numbers, y.Passes := fun hpass =>
      absurd ((RequestConfig.Number.passes_iff x).1 (hpass x (List.mem_of_find?_eq_some hfirst)))
        (by simpa using List.find?_some hfirst)
    refine ⟨fun e => ?_, fun r hr => ?_⟩
    · simp only [hrequest, hfirst, Except.error.injEq, Option.some.injEq, exists_eq_left', hfails,
        false_and, or_false]
      exact eq_comm
    · rw [hrequest] at hr
      cases hr

end RentalRouting
