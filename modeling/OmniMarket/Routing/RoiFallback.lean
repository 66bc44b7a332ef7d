import OmniMarket.Routing.ReducerSpec

/-!
# ROI suppression

`delta`, `nextEligibleTier` and `firstEligibleTier` walk their tiers without the suppressed ones
first, and once more with them when that finds nothing.
-/

namespace OmniMarket

structure SkippingWalk {α β : Type} (name : α → String)
    (step : List String → α → Except RoutingError (Option β))
    (probe : α → Except RoutingError Bool) : Prop where
  skipped : ∀ {skip item}, name item ∈ skip → step skip item = .ok none
  raised : ∀ {skip item raised}, name item ∉ skip → probe item = .error raised →
    step skip item = .error raised
  refused : ∀ {skip item}, name item ∉ skip → probe item = .ok false → step skip item = .ok none
  chosen : ∀ {skip item}, name item ∉ skip → probe item = .ok true →
    ∃ hit, step skip item = .ok (some hit)
  uniform : ∀ {item}, probe item = .ok true → ∀ other, ∃ verdict, probe other = .ok verdict

namespace SkippingWalk

section

variable {α β : Type} {name : α → String}
  {step : List String → α → Except RoutingError (Option β)}
  {probe : α → Except RoutingError Bool} {suppressed skip : List String} {items : List α}
  {item : α} {hit : β}

section

variable (walk : SkippingWalk name step probe)

include walk

theorem of_hit (found : step skip item = .ok (some hit)) :
    name item ∉ skip ∧ probe item = .ok true := by
  have open_ : name item ∉ skip := by
    intro listed
    rw [walk.skipped listed] at found
    cases found
  refine ⟨open_, ?_⟩
  cases verdict : probe item with
  | error raised =>
    rw [walk.raised open_ verdict] at found
    cases found
  | ok takes =>
    cases takes with
    | true => rfl
    | false =>
      rw [walk.refused open_ verdict] at found
      cases found

theorem skips {able : α} (choosable : probe able = .ok true)
    (unable : name item ∉ skip → probe item ≠ .ok true) : step skip item = .ok none := by
  by_cases listed : name item ∈ skip
  · exact walk.skipped listed
  · obtain ⟨verdict, probed⟩ := walk.uniform choosable item
    cases verdict with
    | true => exact absurd probed (unable listed)
    | false => exact walk.refused listed probed

theorem finds_iff :
    (∃ hit, items.findSomeM? (step skip) = .ok (some hit)) ↔
      ∃ item ∈ items, name item ∉ skip ∧ probe item = .ok true := by
  constructor
  · rintro ⟨hit, found⟩
    obtain ⟨before, item, after, rfl, -, stops⟩ := Search.findSomeM?_eq_ok_some.1 found
    exact ⟨item, List.mem_append_right _ List.mem_cons_self, walk.of_hit stops⟩
  · rintro ⟨able, listed, open_, choosable⟩
    induction items with
    | nil => cases listed
    | cons head tail ih =>
      by_cases takes : name head ∉ skip ∧ probe head = .ok true
      · obtain ⟨hit, stops⟩ := walk.chosen takes.1 takes.2
        exact ⟨hit, Search.findSomeM?_cons_some stops⟩
      · have later : able ∈ tail := by
          refine (List.mem_cons.1 listed).resolve_left ?_
          rintro rfl
          exact takes ⟨open_, choosable⟩
        obtain ⟨hit, found⟩ := ih later
        have passed := walk.skips choosable fun free able => takes ⟨free, able⟩
        exact ⟨hit, (Search.findSomeM?_cons_none passed).trans found⟩

theorem fallback_finds :
    (∃ hit, withRoiFallback suppressed (fun skip => items.findSomeM? (step skip)) =
        .ok (some hit)) ↔
      ∃ hit, items.findSomeM? (step []) = .ok (some hit) := by
  constructor
  · rintro ⟨hit, found⟩
    obtain ⟨skip, walked⟩ := withRoiFallback_eq_some found
    obtain ⟨item, listed, -, choosable⟩ := walk.finds_iff.1 ⟨hit, walked⟩
    exact walk.finds_iff.2 ⟨item, listed, List.not_mem_nil, choosable⟩
  · intro static
    obtain ⟨able, among, -, choosable⟩ := walk.finds_iff.1 static
    by_cases free : ∃ item ∈ items, name item ∉ suppressed ∧ probe item = .ok true
    · obtain ⟨hit, found⟩ := walk.finds_iff.2 free
      exact ⟨hit, by rw [withRoiFallback, found]⟩
    · -- all that can be chosen is suppressed: the first walk passes, the second finds
      have passed : items.findSomeM? (step suppressed) = .ok none := by
        refine Search.findSomeM?_eq_ok_none.2 ?_
        intro item listed
        exact walk.skips choosable fun open_ takes => free ⟨item, listed, open_, takes⟩
      have some' : suppressed.isEmpty = false := by
        cases suppressed with
        | nil => exact absurd ⟨able, among, List.not_mem_nil, choosable⟩ free
        | cons => rfl
      obtain ⟨hit, found⟩ := static
      refine ⟨hit, ?_⟩
      rw [withRoiFallback, passed]
      dsimp only
      rw [some', if_neg Bool.false_ne_true, found]

end

end

end SkippingWalk

/-! ## The walk of `delta` -/

section

variable {env : RoutingEnv} {ctx : RouteContext}

/-- Whether `delta` could choose the tier, were it the first one. -/
def deltaProbe (env : RoutingEnv) (ctx : RouteContext) (tier : ModelRoutingTier) :
    Except RoutingError Bool :=
  (tierAllowedByContract env tier ctx.entry).map fun allowed =>
    allowed && (selectedIn env ctx tier).isSome

theorem deltaProbe_takes {tier : ModelRoutingTier} :
    deltaProbe env ctx tier = .ok true ↔ Takes env ctx tier := by
  unfold deltaProbe Takes
  cases tierAllowedByContract env tier ctx.entry with
  | error raised => exact ⟨nofun, nofun⟩
  | ok allowed => simp [Except.map]

theorem routeTier_walk (env : RoutingEnv) (ctx : RouteContext) :
    SkippingWalk (·.name) (routeTier env ctx) (deltaProbe env ctx) where
  skipped := by
    intro skip tier listed
    unfold routeTier
    rw [if_pos (List.contains_iff_mem.2 listed)]
  raised := by
    intro skip tier raised open_ failed
    unfold deltaProbe at failed
    unfold routeTier
    rw [if_neg fun listed => open_ (List.contains_iff_mem.1 listed)]
    cases allowed : tierAllowedByContract env tier ctx.entry with
    | error other =>
      rw [allowed] at failed
      cases failed
      rfl
    | ok verdict =>
      rw [allowed] at failed
      cases failed
  refused := by
    intro skip tier _ probed
    cases routed : routeTier env ctx skip tier with
    | ok found =>
      cases found with
      | none => rfl
      | some decision =>
        have takes := deltaProbe_takes.2 (takes_of_routeTier routed).1
        rw [probed] at takes
        cases takes
    | error raised =>
      unfold deltaProbe at probed
      unfold routeTier at routed
      cases allowed : tierAllowedByContract env tier ctx.entry with
      | error other =>
        rw [allowed] at probed
        cases probed
      | ok verdict =>
        rw [allowed] at routed
        split at routed
        · cases routed
        · cases verdict with
          | false => cases routed
          | true =>
            dsimp only at routed
            split at routed
            · cases routed
            · split at routed <;> cases routed
  chosen := by
    intro skip tier open_ probed
    obtain ⟨decision, routed, -⟩ := routeTier_of_takes (deltaProbe_takes.1 probed) open_
    exact ⟨decision, routed⟩
  uniform := by
    intro tier probed other
    obtain ⟨verdict, total⟩ := tierAllowedByContract_total (deltaProbe_takes.1 probed).1 other
    exact ⟨_, by rw [deltaProbe, total]; rfl⟩

/-! ## The walks of the ladder -/

section

variable (env : RoutingEnv)

structure SameAnswer {β : Type} (answer static : Except RoutingError (Option β)) : Prop where
  raises : (∃ raised, answer = .error raised) ↔ ∃ raised, static = .error raised
  nothing : answer = .ok none ↔ static = .ok none

theorem SameAnswer.refl {β : Type} (answer : Except RoutingError (Option β)) :
    SameAnswer answer answer := ⟨.rfl, .rfl⟩

/-- `delta` with the overlay returns exactly when it returns without. -/
theorem delta_returns_iff (request : ModelDelegationRequest) (minTierName : Option String)
    (roiOverlay : Option (List String)) (excluded : List String) :
    (∃ decision, delta env request minTierName roiOverlay excluded = .ok decision) ↔
      ∃ decision, delta env request minTierName none excluded = .ok decision := by
  have finds : ∀ backends tiers,
      (∃ decision, withRoiFallback (roiOverlay.getD [])
        (route env (routeContext env request backends minTierName excluded) tiers) =
          .ok (some decision)) ↔
      ∃ decision, withRoiFallback []
        (route env (routeContext env request backends minTierName excluded) tiers) =
          .ok (some decision) := by
    intro backends tiers
    rw [withRoiFallback_none]
    exact (routeTier_walk env _).fallback_finds
  constructor
  · rintro ⟨decision, decided⟩
    obtain ⟨backends, tiers, loaded, ordered, walked⟩ := delta_eq_ok.1 decided
    obtain ⟨static, found⟩ := (finds backends tiers).1 ⟨decision, walked⟩
    exact ⟨static, delta_eq_ok.2 ⟨backends, tiers, loaded, ordered, found⟩⟩
  · rintro ⟨decision, decided⟩
    obtain ⟨backends, tiers, loaded, ordered, walked⟩ := delta_eq_ok.1 decided
    obtain ⟨demoted, found⟩ := (finds backends tiers).2 ⟨decision, walked⟩
    exact ⟨demoted, delta_eq_ok.2 ⟨backends, tiers, loaded, ordered, found⟩⟩

end

end

end OmniMarket
