import OmniMarket.Lib.OrderedDict
import OmniMarket.Lib.PyText
import OmniMarket.Lib.PyValue
import OmniMarket.Lib.Raising
import OmniMarket.Lib.Scans

/-!
# The ROI overlay

`build_roi_overlay` counts the rows of `context_roi_scores` by routing tier, over the whole table or
over a recent cohort of each tier: the rows inside a time window, then the last of them. A tier with
enough rows whose success rate is below the floor is suppressed. A cohort smaller than the sample
gate is too thin to suppress its tier.
-/

namespace OmniMarket

variable {rows : List RoiRow} {cutoff : Option ℤ}

open PyText
variable {count : ℤ}

/-! ## Rows -/

/-- A value of a row as an adapter returns it. -/
inductive RoiCell where
  | datetime (moment : PyDatetime)
  | json (value : PyValue)

/-- A row of `context_roi_scores`. -/
abbrev RoiRow := List (String × RoiCell)

/-- `row.get(key)`. -/
def RoiRow.cell (row : RoiRow) (key : String) : RoiCell :=
  ((row.find? fun entry => entry.1 = key).map Prod.snd).getD (.json .none)

def RoiCell.isNone : RoiCell → Bool
  | .json .none => true
  | _ => false

/-- What the interpreter supplies. -/
structure RoiText where
  unicode : UnicodeTable
  /-- `str(value)`. -/
  strOf : RoiCell → String
  /-- `datetime.fromisoformat(text)`; `none` is the value error. -/
  fromisoformat : String → Option PyDatetime
  /-- `int(text)`; `none` is the value error. -/
  intOf : String → Option ℤ
  /-- `float(text)`; `none` is the value error. -/
  floatOf : String → Option PyFloat

/-! ## Gate -/

def defaultRoiMinSamples : ℤ := 5

/-- Half. -/
def defaultRoiSuccessFloor : PyFloat := .finite (1 / 2)

section

variable (text : RoiText)

/-- A number from the environment, or the default when it is unset, malformed or refused. -/
def environNumber {α : Type} (parse : String → Option α) (accepts : α → Bool) (fallback : α)
    (raw : Option String) : α :=
  ((raw.bind parse).filter accepts).getD fallback

/-- An optional number from the environment. -/
def environLimit {α : Type} (parse : String → Option α) (accepts : α → Bool)
    (raw : Option String) : Option α :=
  (raw.bind parse).filter accepts

/-- The environment variables by name. -/
abbrev Environ := String → Option String

def resolveRoiMinSamples (environ : Environ) : ℤ :=
  environNumber text.intOf (fun value => decide (1 ≤ value)) defaultRoiMinSamples
    (environ "DELEGATION_ROI_MIN_SAMPLES")

def resolveRoiSuccessFloor (environ : Environ) : PyFloat :=
  environNumber text.floatOf
    (fun value => PyFloat.le (.finite 0) value && value.le (.finite 1)) defaultRoiSuccessFloor
    (environ "DELEGATION_ROI_SUCCESS_FLOOR")

def resolveRoiLookbackRows (environ : Environ) : Option ℤ :=
  environLimit text.intOf (fun value => decide (1 ≤ value))
    (environ "DELEGATION_ROI_LOOKBACK_ROWS")

def resolveRoiWindowSeconds (environ : Environ) : Option PyFloat :=
  environLimit text.floatOf (fun value => PyFloat.lt (.finite 0) value)
    (environ "DELEGATION_ROI_WINDOW_SECONDS")

/-- The keyword arguments of `build_roi_overlay` that the environment completes. -/
structure RoiArguments where
  minSamples : Option ℤ := none
  successFloor : Option PyFloat := none
  lookbackRows : Option ℤ := none
  windowSeconds : Option PyFloat := none

/-- The resolved thresholds. -/
structure RoiGate where
  minSamples : ℤ
  successFloor : PyFloat
  lookbackRows : Option ℤ
  windowSeconds : Option PyFloat

def RoiArguments.resolve (arguments : RoiArguments) (environ : Environ) : RoiGate where
  minSamples := arguments.minSamples.getD (resolveRoiMinSamples text environ)
  successFloor := arguments.successFloor.getD (resolveRoiSuccessFloor text environ)
  lookbackRows := arguments.lookbackRows.or (resolveRoiLookbackRows text environ)
  windowSeconds := arguments.windowSeconds.or (resolveRoiWindowSeconds text environ)

/-- The gate without recency. -/
def RoiGate.lifetime (gate : RoiGate) : RoiGate :=
  { gate with lookbackRows := none, windowSeconds := none }

/-! ## Row fields -/

def rowSuccess (row : RoiRow) : Bool :=
  match row.cell "final_success" with
  | .json (.bool value) => value
  | .json (.int value) => value != 0
  | .json (.float (.finite value)) => value != 0
  | .json (.float _) => true
  | .json (.str value) =>
    String.ofList (text.unicode.lower (strip value.toList)) ∈ ["t", "true", "1", "yes"]
  | _ => false

def assumeUtc (moment : PyDatetime) : PyDatetime :=
  if moment.utcOffset.isSome then moment else { moment with utcOffset := some 0 }

def rowCreatedAt (row : RoiRow) : Option PyDatetime :=
  match row.cell "created_at" with
  | .datetime moment => some (assumeUtc moment)
  | .json (.str value) =>
    let raw := strip value.toList
    if raw = [] then none
    else
      let zoned :=
        if raw.getLast? = some 'Z' ∨ raw.getLast? = some 'z' then
          raw.dropLast ++ "+00:00".toList
        else raw
      (text.fromisoformat (String.ofList zoned)).map assumeUtc
  | .json _ => none

def rowSortKey (row : RoiRow) : String :=
  match ["correlation_id", "id"].find? fun key => !(row.cell key).isNone with
  | some key => text.strOf (row.cell key)
  | none => ""

/-! ## Recency -/

inductive RoiError where
  /-- `timedelta` refuses the window, or its start is no date. -/
  | window
  /-- A validation error of the overlay. -/
  | invalid

/-- A reading of the window's reference clock in UTC, in microseconds. -/
structure RoiClock where
  micros : ℤ
  low : -62135596800000000 ≤ micros
  high : micros ≤ 253402300799999999

/-- `timedelta(seconds=seconds)`, in microseconds. -/
def timedeltaSeconds : PyFloat → Option ℤ
  | .finite seconds =>
    let micros := PyNumber.roundHalfEven (seconds * 10 ^ 6)
    if -86399999913600000000 ≤ micros ∧ micros ≤ 86399999999999999999 then some micros else none
  | _ => none

def windowStart (now : RoiClock) (windowSeconds : PyFloat) : Option ℤ := do
  let span ← timedeltaSeconds windowSeconds
  let start := now.micros - span
  if -62135596800000000 ≤ start ∧ start ≤ 253402300799999999 then some start else none

/-- `reference_now - timedelta(...)`, when there is a window. -/
def cutoffOf (now : RoiClock) : Option PyFloat → Except RoiError (Option ℤ)
  | none => .ok none
  | some windowSeconds =>
    match windowStart now windowSeconds with
    | some start => .ok (some start)
    | none => .error .window

/-- `rows[-count:]`. -/
def lastRows {α : Type} (count : ℤ) (rows : List α) : List α :=
  if count ≤ 0 then rows.drop (-count).toNat else rows.drop (rows.length - count.toNat)

/-- A row with its moment and its tiebreak. -/
abbrev RankedRow := ℤ × String × RoiRow

/-- `(created, key)`, as the sort compares it. -/
def RankedRow.rank (row : RankedRow) : ℤ ×ₗ String := toLex (row.1, row.2.1)

def RankedRow.Le (first second : RankedRow) : Prop := first.rank ≤ second.rank

instance : DecidableRel RankedRow.Le := fun first second =>
  inferInstanceAs (Decidable (first.rank ≤ second.rank))

def rankRow (cutoff : Option ℤ) (row : RoiRow) : Option RankedRow :=
  match rowCreatedAt text row with
  | none => none
  | some created =>
    if cutoff.any fun start => decide (created.instant < start) then none
    else some (created.instant, rowSortKey text row, row)

/-- The rows of a tier inside the window, oldest first. -/
def windowRows (cutoff : Option ℤ) (rows : List RoiRow) : List RoiRow :=
  ((rows.filterMap (rankRow text cutoff)).insertionSort RankedRow.Le).map fun ranked => ranked.2.2

/-- The cohort that `_apply_recency_window` keeps of a tier. -/
def cohort (cutoff : Option ℤ) (lookbackRows : Option ℤ) (rows : List RoiRow) : List RoiRow :=
  match lookbackRows with
  | none => windowRows text cutoff rows
  | some count => lastRows count (windowRows text cutoff rows)

/-! ## Aggregation -/

@[ext] structure TierCounts where
  successCount : ℕ
  sampleCount : ℕ
  bounded : successCount ≤ sampleCount

section

variable (tierOfEndpoint : String → Option String)

def tierOfRow (row : RoiRow) : Option String :=
  match row.cell "endpoint_ref" with
  | .json (.str endpoint) =>
    if endpoint = "" then none else (tierOfEndpoint endpoint).filter fun tier => tier ≠ ""
  | _ => none

def tieredRows (rows : List RoiRow) :
    List (String × RoiRow) :=
  rows.filterMap fun row => (tierOfRow tierOfEndpoint row).map (·, row)

def countRow (held : Option TierCounts) (row : RoiRow) : TierCounts :=
  match held with
  | none => ⟨if rowSuccess text row then 1 else 0, 1, by split <;> decide⟩
  | some counts =>
    ⟨counts.successCount + (if rowSuccess text row then 1 else 0), counts.sampleCount + 1,
      Nat.add_le_add counts.bounded (by split <;> decide)⟩

def countsOf (rows : List RoiRow) : TierCounts :=
  ⟨rows.countP (rowSuccess text), rows.length, List.countP_le_length⟩

def tierCounts (gate : RoiGate) (cutoff : Option ℤ) (rows : List RoiRow) :
    OrderedDict String TierCounts :=
  let tiered := tieredRows tierOfEndpoint rows
  if gate.lookbackRows = none ∧ gate.windowSeconds.isNone then
    OrderedDict.foldByKey Prod.fst (fun held entry => countRow text held entry.2)
      OrderedDict.empty tiered
  else
    let tierRows := (OrderedDict.groupBy Prod.fst tiered).mapValues (List.map Prod.snd)
    let windowed := tierRows.filterMapValues fun rows =>
      let kept := cohort text cutoff gate.lookbackRows rows
      if kept.isEmpty then none else some kept
    windowed.mapValues (countsOf text)

/-! ## Overlay -/

@[ext] structure ModelTierRoiSignal where
  tierName : String
  sampleCount : ℕ
  successCount : ℕ
  successRate : ℚ
  suppressed : Bool
  rate_nonneg : 0 ≤ successRate
  rate_le_one : successRate ≤ 1

@[ext] structure ModelRoutingRoiOverlay where
  taskType : NonEmptyString
  minSamples : ℤ
  successFloor : ℚ
  signals : List ModelTierRoiSignal
  minSamples_pos : 1 ≤ minSamples
  floor_nonneg : 0 ≤ successFloor
  floor_le_one : successFloor ≤ 1

def ModelRoutingRoiOverlay.IsSuppressed (overlay : ModelRoutingRoiOverlay) (tier : String) : Prop :=
  ∃ signal ∈ overlay.signals, signal.suppressed = true ∧ signal.tierName = tier

def TierCounts.successRate (counts : TierCounts) : ℚ :=
  if counts.sampleCount = 0 then 0 else counts.successCount / counts.sampleCount

theorem TierCounts.successRate_nonneg (counts : TierCounts) : 0 ≤ counts.successRate := by
  unfold TierCounts.successRate
  split
  · exact le_refl 0
  · positivity

theorem TierCounts.successRate_le_one (counts : TierCounts) : counts.successRate ≤ 1 := by
  unfold TierCounts.successRate
  split
  · exact zero_le_one
  · exact div_le_one_of_le₀ (by exact_mod_cast counts.bounded) (Nat.cast_nonneg _)

def signalOf (gate : RoiGate) (entry : String × TierCounts) : ModelTierRoiSignal where
  tierName := entry.1
  sampleCount := entry.2.sampleCount
  successCount := entry.2.successCount
  successRate := entry.2.successRate
  suppressed := decide (gate.minSamples ≤ entry.2.sampleCount) &&
    PyFloat.lt (.finite entry.2.successRate) gate.successFloor
  rate_nonneg := entry.2.successRate_nonneg
  rate_le_one := entry.2.successRate_le_one

def signalsOf (gate : RoiGate) (counts : OrderedDict String TierCounts) :
    List ModelTierRoiSignal :=
  (counts.entries.insertionSort fun first second => first.1 ≤ second.1).map (signalOf gate)

/-- `ModelRoutingRoiOverlay(...)`. -/
def validateOverlay (taskType : String) (gate : RoiGate) (signals : List ModelTierRoiSignal) :
    Except RoiError ModelRoutingRoiOverlay :=
  match NonEmptyString.validate? taskType, gate.successFloor with
  | some taskType, .finite successFloor =>
    if bounds : 1 ≤ gate.minSamples ∧ 0 ≤ successFloor ∧ successFloor ≤ 1 then
      .ok ⟨taskType, gate.minSamples, successFloor, signals, bounds.1, bounds.2.1, bounds.2.2⟩
    else .error .invalid
  | _, _ => .error .invalid

/-- `build_roi_overlay` with resolved thresholds. -/
def overlayOf (taskType : String) (now : RoiClock) (gate : RoiGate) (rows : List RoiRow) :
    Except RoiError ModelRoutingRoiOverlay := do
  let cutoff ← cutoffOf now gate.windowSeconds
  validateOverlay taskType gate (signalsOf gate (tierCounts text tierOfEndpoint gate cutoff rows))

end

def buildRoiOverlay (environ : Environ) (tierOfEndpoint : String → Option String)
    (taskType : String) (arguments : RoiArguments) (now : RoiClock) (rows : List RoiRow) :
    Except RoiError ModelRoutingRoiOverlay :=
  overlayOf text tierOfEndpoint taskType now (arguments.resolve text environ) rows

end

variable {text : RoiText} {tierOfEndpoint : String → Option String}

/-! ## Counts -/

def rowsOfTier (tierOfEndpoint : String → Option String) (tier : String) (rows : List RoiRow) :
    List RoiRow :=
  ((tieredRows tierOfEndpoint rows).filter fun entry => entry.1 = tier).map Prod.snd

def counted (text : RoiText) (rows : List RoiRow) : Option TierCounts :=
  if rows.isEmpty then none else some (countsOf text rows)

variable {first second : List RoiRow}

theorem countsOf_perm (same : first.Perm second) : countsOf text first = countsOf text second :=
  TierCounts.ext (same.countP_eq _) same.length_eq

theorem counted_perm (same : first.Perm second) : counted text first = counted text second := by
  unfold counted
  rw [countsOf_perm same, same.isEmpty_eq]

theorem countRow_countsOf (rows : List RoiRow) (row : RoiRow) :
    countRow text (counted text rows) row = countsOf text (rows ++ [row]) := by
  cases rows with
  | nil => exact TierCounts.ext (by simp [countRow, counted, countsOf, List.countP_cons]) rfl
  | cons first rest =>
    refine TierCounts.ext ?_ ?_
    · show (first :: rest).countP (rowSuccess text) + _ =
        ((first :: rest) ++ [row]).countP (rowSuccess text)
      rw [List.countP_append, List.countP_singleton]
    · show (first :: rest).length + 1 = ((first :: rest) ++ [row]).length
      rw [List.length_append, List.length_singleton]

theorem foldl_countRow (entries : List (String × RoiRow)) :
    entries.foldl (fun held entry => some (countRow text held entry.2)) none =
      counted text (entries.map Prod.snd) := by
  induction entries using List.reverseRecOn with
  | nil => rfl
  | append_singleton entries last ih =>
    rw [List.foldl_append, ih, List.foldl_cons, List.foldl_nil, countRow_countsOf,
      List.map_append, List.map_singleton]
    unfold counted
    rw [if_neg (by simp)]

theorem get?_groupBy {κ ε : Type} [DecidableEq κ] (key : ε → κ) (items : List ε) (k : κ) :
    (OrderedDict.groupBy key items).get? k =
      if (items.filter fun item => key item = k).isEmpty then none
      else some (items.filter fun item => key item = k) := by
  refine Option.ext fun group => ?_
  rw [← OrderedDict.mem_entries, OrderedDict.mem_groupBy]
  split
  · next blank =>
    rw [List.isEmpty_iff.1 blank]
    simp
  · next filled =>
    rw [List.isEmpty_iff] at filled
    constructor
    · rintro ⟨rfl, -⟩
      rfl
    · intro same
      cases same
      exact ⟨rfl, filled⟩

section

variable {cutoff : Option ℤ} {rows : List RoiRow}
  (covered : ∀ row ∈ rows, ∃ created, rowCreatedAt text row = some created ∧ ∀ start ∈ cutoff, start ≤ created.instant)

include covered

theorem filterMap_rankRow :
    (rows.filterMap (rankRow text cutoff)).map (fun ranked => ranked.2.2) = rows := by
  induction rows with
  | nil => rfl
  | cons row rest ih =>
    obtain ⟨created, parsed, late⟩ := covered row List.mem_cons_self
    have kept : rankRow text cutoff row =
        some (created.instant, rowSortKey text row, row) := by
      unfold rankRow
      rw [parsed]
      cases cutoff with
      | none => rfl
      | some start =>
        have notBefore : ¬ created.instant < start := not_lt.2 (late start rfl)
        simp [notBefore]
    rw [List.filterMap_cons_some kept, List.map_cons,
      ih fun row listed => covered row (List.mem_cons_of_mem _ listed)]

theorem windowRows_perm : (windowRows text cutoff rows).Perm rows := by
  have sorted := (List.perm_insertionSort RankedRow.Le
    (rows.filterMap (rankRow text cutoff))).map fun ranked => ranked.2.2
  rw [filterMap_rankRow covered] at sorted
  exact sorted

end

def Parseable (text : RoiText) (rows : List RoiRow) : Prop :=
  ∀ row ∈ rows, ∃ created, rowCreatedAt text row = some created

variable {row : RoiRow}

theorem mem_rowsOfTier {tier : String}
    (listed : row ∈ rowsOfTier tierOfEndpoint tier rows) : row ∈ rows := by
  obtain ⟨entry, within, rfl⟩ := List.mem_map.1 listed
  obtain ⟨other, source, mapped⟩ := List.mem_filterMap.1 (List.mem_filter.1 within).1
  obtain ⟨_, _, rfl⟩ := Option.map_eq_some_iff.1 mapped
  exact source

variable (tierOfEndpoint) in
theorem tierCounts_cohort {gate : RoiGate}
    (parseable : Parseable text rows) (unbounded : gate.windowSeconds = none → cutoff = none)
    (tier : String) :
    (tierCounts text tierOfEndpoint gate cutoff rows).get? tier =
      counted text (cohort text cutoff gate.lookbackRows (rowsOfTier tierOfEndpoint tier rows)) := by
  unfold tierCounts
  dsimp only
  split
  · next lifetime =>
    rw [OrderedDict.get?_foldByKey, OrderedDict.get?_empty, foldl_countRow, lifetime.1,
      unbounded (Option.isNone_iff_eq_none.1 lifetime.2)]
    refine (counted_perm (windowRows_perm ?_)).symm
    intro row listed
    obtain ⟨created, parsed⟩ := parseable row (mem_rowsOfTier listed)
    exact ⟨created, parsed, fun _ impossible => by cases impossible⟩
  · rw [OrderedDict.get?_mapValues, OrderedDict.get?_filterMapValues, OrderedDict.get?_mapValues,
      get?_groupBy]
    unfold rowsOfTier
    generalize (tieredRows tierOfEndpoint rows).filter (fun entry => entry.1 = tier) = entries
    cases entries with
    | nil =>
      rw [List.map_nil]
      cases gate.lookbackRows with
      | none => rfl
      | some count => simp [cohort, windowRows, lastRows, counted]
    | cons first rest =>
      dsimp only [List.isEmpty_cons, Option.map_some, Option.bind_some]
      rw [if_neg Bool.false_ne_true]
      dsimp only [Option.map_some, Option.bind_some]
      unfold counted
      split <;> rfl

/-! ## Order of the rows -/

/-- `str(correlation_id)` of a row that has one. -/
def correlationText (text : RoiText) (row : RoiRow) : Option String :=
  if (row.cell "correlation_id").isNone then none
  else some (text.strOf (row.cell "correlation_id"))

structure DistinctIds (text : RoiText) (rows : List RoiRow) : Prop where
  present : ∀ row ∈ rows, (correlationText text row).isSome
  distinct : (rows.map (correlationText text)).Nodup

theorem correlationText_eq (present : (correlationText text row).isSome) :
    correlationText text row = some (rowSortKey text row) := by
  unfold correlationText at present ⊢
  unfold rowSortKey
  split_ifs at present ⊢ with absent
  · cases present
  · have found : (["correlation_id", "id"].find? fun key => !(row.cell key).isNone) =
        some "correlation_id" := List.find?_cons_of_pos (by simp [absent])
    rw [found]

theorem DistinctIds.apart (ids : DistinctIds text rows) {other : RoiRow}
    (listed : row ∈ rows) (listed' : other ∈ rows)
    (same : rowSortKey text row = rowSortKey text other) : row = other := by
  refine List.inj_on_of_nodup_map ids.distinct listed listed' ?_
  rw [correlationText_eq (ids.present row listed), correlationText_eq (ids.present other listed'),
    same]

theorem rankRow_eq_some {ranked : RankedRow} (kept : rankRow text cutoff row = some ranked) :
    ∃ created, rowCreatedAt text row = some created ∧
      ranked = (created.instant, rowSortKey text row, row) := by
  unfold rankRow at kept
  split at kept
  · cases kept
  · next created parsed =>
    split_ifs at kept
    exact ⟨created, parsed, (Option.some.inj kept).symm⟩

instance : IsTrans RankedRow RankedRow.Le :=
  ⟨fun _ _ _ below above => le_trans (show RankedRow.rank _ ≤ _ from below) above⟩

instance : Std.Total RankedRow.Le := ⟨fun first second => le_total first.rank second.rank⟩

theorem windowRows_congr (ids : DistinctIds text second)
    (same : first.Perm second) : windowRows text cutoff first = windowRows text cutoff second := by
  refine congrArg (List.map _) (insertionSort_perm (same.filterMap _) ?_)
  intro a inFirst b inSecond below above
  obtain ⟨row, listed, kept⟩ := List.mem_filterMap.1 inFirst
  obtain ⟨other, listed', kept'⟩ := List.mem_filterMap.1 inSecond
  obtain ⟨created, parsed, rfl⟩ := rankRow_eq_some kept
  obtain ⟨created', parsed', rfl⟩ := rankRow_eq_some kept'
  have ranks : toLex (created.instant, rowSortKey text row) =
      toLex (created'.instant, rowSortKey text other) := le_antisymm below above
  have keys : rowSortKey text row = rowSortKey text other :=
    (Prod.mk.inj (toLex.injective ranks)).2
  obtain rfl := ids.apart listed listed' keys
  rw [parsed] at parsed'
  cases parsed'
  rfl

theorem cohort_perm {cutoff lookbackRows : Option ℤ} (ids : DistinctIds text second)
    (same : first.Perm second) :
    cohort text cutoff lookbackRows first = cohort text cutoff lookbackRows second := by
  unfold cohort
  rw [windowRows_congr ids same]

variable (tierOfEndpoint) in
theorem rowsOfTier_sublist (tier : String) (rows : List RoiRow) :
    (rowsOfTier tierOfEndpoint tier rows).Sublist rows := by
  induction rows with
  | nil => exact List.Sublist.refl _
  | cons row rest ih =>
    unfold rowsOfTier tieredRows at ih ⊢
    cases mapped : tierOfRow tierOfEndpoint row with
    | none =>
      rw [List.filterMap_cons_none (by rw [mapped, Option.map_none])]
      exact ih.cons row
    | some own =>
      rw [List.filterMap_cons_some (by rw [mapped, Option.map_some]), List.filter_cons]
      split
      · exact ih.cons_cons row
      · exact ih.cons row

theorem DistinctIds.ofTier (ids : DistinctIds text rows) (tier : String) :
    DistinctIds text (rowsOfTier tierOfEndpoint tier rows) :=
  ⟨fun row listed => ids.present row (mem_rowsOfTier listed),
    ids.distinct.sublist ((rowsOfTier_sublist _ tier rows).map _)⟩

theorem rowsOfTier_perm (same : first.Perm second) (tier : String) :
    (rowsOfTier tierOfEndpoint tier first).Perm (rowsOfTier tierOfEndpoint tier second) :=
  ((same.filterMap _).filter _).map _

theorem signalsOf_congr {gate : RoiGate} {first second : OrderedDict String TierCounts}
    (same : ∀ tier, first.get? tier = second.get? tier) :
    signalsOf gate first = signalsOf gate second := by
  have transitive : IsTrans (String × TierCounts) fun first second => first.1 ≤ second.1 :=
    ⟨fun _ _ _ below above => le_trans below above⟩
  have total : Std.Total fun first second : String × TierCounts => first.1 ≤ second.1 :=
    ⟨fun first second => le_total first.1 second.1⟩
  refine congrArg (List.map _) (insertionSort_perm (OrderedDict.entries_perm same) ?_)
  intro a inFirst b inSecond below above
  exact List.inj_on_of_nodup_map second.nodup inFirst inSecond (le_antisymm below above)

theorem mem_signalsOf {gate : RoiGate} {counts : OrderedDict String TierCounts}
    {signal : ModelTierRoiSignal} :
    signal ∈ signalsOf gate counts ↔
      ∃ tier held, counts.get? tier = some held ∧ signalOf gate (tier, held) = signal := by
  unfold signalsOf
  rw [List.mem_map]
  constructor
  · rintro ⟨⟨tier, held⟩, listed, same⟩
    rw [List.mem_insertionSort] at listed
    exact ⟨tier, held, OrderedDict.mem_entries.1 listed, same⟩
  · rintro ⟨tier, held, found, same⟩
    exact ⟨(tier, held), List.mem_insertionSort _ |>.2 (OrderedDict.mem_entries.2 found), same⟩

/-! ## The settled overlay -/

section

variable (text : RoiText) (tierOfEndpoint : String → Option String)

structure Covers (now : RoiClock) (gate : RoiGate) (rows : List RoiRow) : Prop where
  window : ∀ windowSeconds ∈ gate.windowSeconds, ∃ start,
    windowStart now windowSeconds = some start ∧ ∀ row ∈ rows, ∀ created,
      rowCreatedAt text row = some created → start ≤ created.instant
  lookback : ∀ count ∈ gate.lookbackRows, (rows.length : ℤ) ≤ count

/-- Thresholds that the overlay validates, with a floor that a success rate can be below. -/
structure Gates (taskType : String) (now : RoiClock) (gate : RoiGate) (cutoff : Option ℤ) :
    Prop where
  task : taskType ≠ ""
  samples : 1 ≤ gate.minSamples
  floor : ∃ floor : ℚ, gate.successFloor = .finite floor ∧ 0 < floor ∧ floor ≤ 1
  start : cutoffOf now gate.windowSeconds = .ok cutoff

structure RecentlyFailing (gate : RoiGate) (cutoff : Option ℤ) (rows : List RoiRow)
    (tier : String) : Prop where
  enough : gate.minSamples ≤ (windowRows text cutoff (rowsOfTier tierOfEndpoint tier rows)).length
  failing : ∀ row ∈ lastRows gate.minSamples
    (windowRows text cutoff (rowsOfTier tierOfEndpoint tier rows)), rowSuccess text row = false
  noSuccess : ∀ row ∈ cohort text cutoff gate.lookbackRows (rowsOfTier tierOfEndpoint tier rows),
    row ∉ lastRows gate.minSamples
      (windowRows text cutoff (rowsOfTier tierOfEndpoint tier rows)) → rowSuccess text row = false

end

variable {taskType : String} {now : RoiClock} {gate : RoiGate} {cutoff : Option ℤ}
  {rows : List RoiRow} {tier : String}

theorem cutoffOf_unbounded (read : cutoffOf now gate.windowSeconds = .ok cutoff) :
    gate.windowSeconds = none → cutoff = none := by
  intro unset
  rw [unset] at read
  exact (Except.ok.inj read).symm

theorem overlay_order_free (ids : DistinctIds text rows) (parseable : Parseable text rows)
    {other : List RoiRow} (same : other.Perm rows) :
    overlayOf text tierOfEndpoint taskType now gate other =
      overlayOf text tierOfEndpoint taskType now gate rows := by
  unfold overlayOf
  cases read : cutoffOf now gate.windowSeconds with
  | error raised => rfl
  | ok cutoff =>
    have unbounded := cutoffOf_unbounded read
    have parseable' : Parseable text other := fun row listed =>
      parseable row (same.subset listed)
    refine congrArg (validateOverlay taskType gate) (signalsOf_congr fun tier => ?_)
    rw [tierCounts_cohort _ parseable' unbounded, tierCounts_cohort _ parseable unbounded,
      cohort_perm (ids.ofTier tier) (rowsOfTier_perm same tier)]

theorem lastRows_all {α : Type} {items : List α} (long : (items.length : ℤ) ≤ count) :
    lastRows count items = items := by
  unfold lastRows
  split
  · have none : (-count).toNat = 0 := by omega
    rw [none, List.drop_zero]
  · have none : items.length - count.toNat = 0 := by omega
    rw [none, List.drop_zero]

theorem overlay_lifetime (parseable : Parseable text rows) (covers : Covers text now gate rows) :
    overlayOf text tierOfEndpoint taskType now gate rows =
      overlayOf text tierOfEndpoint taskType now gate.lifetime rows := by
  obtain ⟨cutoff, read, reaches⟩ : ∃ cutoff, cutoffOf now gate.windowSeconds = .ok cutoff ∧
      ∀ start ∈ cutoff, ∀ row ∈ rows, ∀ created, rowCreatedAt text row = some created →
        start ≤ created.instant := by
    cases set : gate.windowSeconds with
    | none => exact ⟨none, rfl, fun _ impossible => by cases impossible⟩
    | some windowSeconds =>
      obtain ⟨start, begins, early⟩ := covers.window windowSeconds set
      refine ⟨some start, by rw [cutoffOf, begins], ?_⟩
      intro other same
      cases same
      exact early
  have counts : signalsOf gate (tierCounts text tierOfEndpoint gate cutoff rows) =
      signalsOf gate (tierCounts text tierOfEndpoint gate.lifetime none rows) := by
    refine signalsOf_congr fun tier => ?_
    rw [tierCounts_cohort _ parseable (cutoffOf_unbounded read),
      tierCounts_cohort _ parseable fun _ => rfl]
    have inWindow : (windowRows text cutoff (rowsOfTier tierOfEndpoint tier rows)).Perm
        (rowsOfTier tierOfEndpoint tier rows) := by
      refine windowRows_perm fun row listed => ?_
      obtain ⟨created, parsed⟩ := parseable row (mem_rowsOfTier listed)
      exact ⟨created, parsed, fun start begins =>
        reaches start begins row (mem_rowsOfTier listed) created parsed⟩
    have whole : (windowRows text none (rowsOfTier tierOfEndpoint tier rows)).Perm
        (rowsOfTier tierOfEndpoint tier rows) := by
      refine windowRows_perm fun row listed => ?_
      obtain ⟨created, parsed⟩ := parseable row (mem_rowsOfTier listed)
      exact ⟨created, parsed, fun _ impossible => by cases impossible⟩
    refine counted_perm (List.Perm.trans ?_ whole.symm)
    unfold cohort
    cases set : gate.lookbackRows with
    | none => exact inWindow
    | some count =>
      have long := covers.lookback count set
      have fewer := (rowsOfTier_sublist tierOfEndpoint tier rows).length_le
      have length := inWindow.length_eq
      dsimp only
      rw [lastRows_all (by omega)]
      exact inWindow
  unfold overlayOf
  rw [read]
  show validateOverlay taskType gate _ = validateOverlay taskType gate.lifetime _
  rw [counts]
  rfl

theorem validateOverlay_gates (gates : Gates taskType now gate cutoff)
    (signals : List ModelTierRoiSignal) :
    ∃ overlay, validateOverlay taskType gate signals = .ok overlay ∧ overlay.signals = signals := by
  obtain ⟨floor, read, positive, below⟩ := gates.floor
  unfold validateOverlay
  rw [read, NonEmptyString.validate?, dif_neg gates.task]
  dsimp only
  rw [dif_pos ⟨gates.samples, positive.le, below⟩]
  exact ⟨_, rfl, rfl⟩

variable {overlay : ModelRoutingRoiOverlay}

theorem validateOverlay_signals {signals : List ModelTierRoiSignal}
    (validated : validateOverlay taskType gate signals = .ok overlay) :
    overlay.signals = signals := by
  unfold validateOverlay at validated
  split at validated
  · split_ifs at validated
    cases validated
    rfl
  · cases validated

theorem length_lastRows {α : Type} {items : List α} (positive : 1 ≤ count) :
    ((lastRows count items).length : ℤ) = min count items.length := by
  unfold lastRows
  rw [if_neg (by omega), List.length_drop]
  omega

theorem overlay_suppresses (parseable : Parseable text rows)
    (gates : Gates taskType now gate cutoff)
    (failing : RecentlyFailing text tierOfEndpoint gate cutoff rows tier)
    (thick : ∀ count ∈ gate.lookbackRows, gate.minSamples ≤ count) :
    ∃ overlay, overlayOf text tierOfEndpoint taskType now gate rows = .ok overlay ∧
      overlay.IsSuppressed tier := by
  have samples := gates.samples
  have enough := failing.enough
  have large : gate.minSamples ≤
      (cohort text cutoff gate.lookbackRows (rowsOfTier tierOfEndpoint tier rows)).length := by
    unfold cohort
    cases set : gate.lookbackRows with
    | none => exact enough
    | some count =>
      have atLeast := thick count set
      dsimp only
      rw [length_lastRows (by omega)]
      exact le_min atLeast enough
  have failures : ∀ row ∈ cohort text cutoff gate.lookbackRows
      (rowsOfTier tierOfEndpoint tier rows), rowSuccess text row = false := by
    intro row listed
    rcases em (row ∈ lastRows gate.minSamples
      (windowRows text cutoff (rowsOfTier tierOfEndpoint tier rows))) with recent | older
    · exact failing.failing row recent
    · exact failing.noSuccess row listed older
  obtain ⟨overlay, validated, signals⟩ := validateOverlay_gates gates
    (signalsOf gate (tierCounts text tierOfEndpoint gate cutoff rows))
  refine ⟨overlay, ?_, ?_⟩
  · unfold overlayOf
    rw [gates.start]
    exact validated
  · have counts := tierCounts_cohort tierOfEndpoint parseable
      (cutoffOf_unbounded gates.start) tier
    generalize cohort text cutoff gate.lookbackRows (rowsOfTier tierOfEndpoint tier rows) = kept
      at counts large failures
    have filled : ¬ kept.isEmpty = true := by
      intro blank
      rw [List.isEmpty_iff.1 blank, List.length_nil] at large
      omega
    rw [counted, if_neg filled] at counts
    obtain ⟨floor, read, positive, _⟩ := gates.floor
    have noSuccess : (countsOf text kept).successCount = 0 := by
      refine List.countP_eq_zero.2 fun row listed success => ?_
      rw [failures row listed] at success
      cases success
    have rate : (countsOf text kept).successRate = 0 := by
      unfold TierCounts.successRate
      rw [noSuccess, Nat.cast_zero, zero_div, ite_self]
    have many : gate.minSamples ≤ ((countsOf text kept).sampleCount : ℤ) := large
    refine ⟨signalOf gate (tier, countsOf text kept), ?_, ?_, rfl⟩
    · rw [signals]
      exact mem_signalsOf.2 ⟨tier, _, counts, rfl⟩
    · show (decide (gate.minSamples ≤ ((countsOf text kept).sampleCount : ℤ)) &&
        PyFloat.lt (.finite (countsOf text kept).successRate) gate.successFloor) = true
      rw [rate, read, PyFloat.lt_finite, decide_eq_true many, decide_eq_true positive]
      rfl

theorem overlay_thin (parseable : Parseable text rows) (set : gate.lookbackRows = some count)
    (positive : 1 ≤ count) (thin : count < gate.minSamples)
    (built : overlayOf text tierOfEndpoint taskType now gate rows = .ok overlay) (tier : String) :
    ¬ overlay.IsSuppressed tier := by
  rintro ⟨signal, listed, suppressed, rfl⟩
  obtain ⟨cutoff, read, validated⟩ := Raising.bind_eq_ok.1 built
  rw [validateOverlay_signals validated] at listed
  obtain ⟨tier, held, counts, rfl⟩ := mem_signalsOf.1 listed
  rw [tierCounts_cohort _ parseable (cutoffOf_unbounded read), set] at counts
  unfold counted at counts
  split_ifs at counts
  cases counts
  have few : ((cohort text cutoff (some count) (rowsOfTier tierOfEndpoint tier rows)).length : ℤ) ≤
      count := by
    dsimp only [cohort]
    rw [length_lastRows positive]
    exact min_le_left _ _
  obtain ⟨enough, _⟩ := Bool.and_eq_true_iff.1 suppressed
  have enough : gate.minSamples ≤
      ((cohort text cutoff (some count) (rowsOfTier tierOfEndpoint tier rows)).length : ℤ) :=
    of_decide_eq_true enough
  omega

/-- For every list of rows with distinct ids and moments: the overlay does not depend on their
order; where the window and the lookback cover the rows, it is the whole-table overlay; a tier that
fails recently is suppressed, unless the lookback is below the sample gate, where no tier is. -/
theorem roi_overlay_settled (text : RoiText) (environ : Environ)
    (tierOfEndpoint : String → Option String) (taskType : String) (arguments : RoiArguments)
    (now : RoiClock) {rows : List RoiRow} (ids : DistinctIds text rows)
    (parseable : Parseable text rows) : let gate := arguments.resolve text environ
    let build := buildRoiOverlay text environ tierOfEndpoint taskType arguments now
    (∀ other, other.Perm rows → build other = build rows) ∧
    (Covers text now gate rows →
      build rows = overlayOf text tierOfEndpoint taskType now gate.lifetime rows) ∧
    (∀ cutoff tier, Gates taskType now gate cutoff →
      RecentlyFailing text tierOfEndpoint gate cutoff rows tier →
      (∀ count ∈ gate.lookbackRows, gate.minSamples ≤ count) →
      ∃ overlay, build rows = .ok overlay ∧ overlay.IsSuppressed tier) ∧
    ∀ count ∈ gate.lookbackRows, 1 ≤ count → count < gate.minSamples →
      ∀ overlay, build rows = .ok overlay → ∀ tier, ¬ overlay.IsSuppressed tier := by
  intro gate build
  refine ⟨?_, ?_, ?_, ?_⟩
  · intro other same
    exact overlay_order_free ids parseable same
  · intro covers
    exact overlay_lifetime parseable covers
  · intro cutoff tier gates failing thick
    exact overlay_suppresses parseable gates failing thick
  · intro count set positive thin overlay built tier
    exact overlay_thin parseable set positive thin built tier

/-! ## Two failures behind a lookback -/

def sampleRoiText : RoiText where
  unicode := asciiTable
  strOf
    | .json (.str value) => value
    | _ => ""
  fromisoformat _ := none
  intOf _ := none
  floatOf _ := none

/-- A failure of the backend `local-coder`. -/
def failedRow (correlationId : String) (micros : ℤ) : RoiRow :=
  [("correlation_id", .json (.str correlationId)), ("endpoint_ref", .json (.str "local-coder")),
    ("final_success", .json (.bool false)), ("created_at", .datetime ⟨micros, some 0⟩)]

def failedRows : List RoiRow := [failedRow "a" 1783339200000000, failedRow "b" 1783339201000000]

theorem roiClock_low : -62135596800000000 ≤ (1783339300000000 : ℤ) := by decide

theorem roiClock_high : (1783339300000000 : ℤ) ≤ 253402300799999999 := by decide

def sampleRoiClock : RoiClock := ⟨1783339300000000, roiClock_low, roiClock_high⟩

def gateOfTwo (lookbackRows : ℤ) : RoiArguments where
  minSamples := some 2
  successFloor := some (.finite (1 / 2))
  lookbackRows := some lookbackRows

theorem failedRows_ids : DistinctIds sampleRoiText failedRows := ⟨by decide, by decide⟩

theorem failedRows_parseable : Parseable sampleRoiText failedRows := by
  intro row listed
  simp only [failedRows, List.mem_cons, List.not_mem_nil, or_false] at listed
  rcases listed with rfl | rfl <;> exact ⟨_, rfl⟩

theorem gateOfTwo_gates (lookbackRows : ℤ) : Gates "code_generation" sampleRoiClock
      ((gateOfTwo lookbackRows).resolve sampleRoiText fun _ => none) none :=
  ⟨by decide, one_le_two, ⟨1 / 2, rfl, by norm_num, by norm_num⟩, rfl⟩

theorem mem_windowRows (listed : row ∈ windowRows text cutoff rows) : row ∈ rows := by
  obtain ⟨ranked, inWindow, rfl⟩ := List.mem_map.1 listed
  rw [List.mem_insertionSort] at inWindow
  obtain ⟨source, within, kept⟩ := List.mem_filterMap.1 inWindow
  obtain ⟨_, _, rfl⟩ := rankRow_eq_some kept
  exact within

theorem mem_lastRows {α : Type} {items : List α} {item : α} (listed : item ∈ lastRows count items) :
    item ∈ items := by
  unfold lastRows at listed
  split at listed <;> exact List.mem_of_mem_drop listed

theorem failedRows_failing (lookbackRows : ℤ) :
    RecentlyFailing sampleRoiText (fun _ => some "local")
      ((gateOfTwo lookbackRows).resolve sampleRoiText fun _ => none) none failedRows "local" := by
  have failed : ∀ row ∈ windowRows sampleRoiText none
      (rowsOfTier (fun _ => some "local") "local" failedRows),
      rowSuccess sampleRoiText row = false := by
    intro row listed
    have source := mem_rowsOfTier (mem_windowRows listed)
    simp only [failedRows, List.mem_cons, List.not_mem_nil, or_false] at source
    rcases source with rfl | rfl <;> rfl
  refine ⟨?_, fun row listed => failed row (mem_lastRows listed),
    fun row listed _ => failed row (mem_lastRows listed)⟩
  have kept : (windowRows sampleRoiText none
      (rowsOfTier (fun _ => some "local") "local" failedRows)).length = 2 := by
    rw [(windowRows_perm fun row listed => ?_).length_eq]
    · rfl
    · obtain ⟨created, parsed⟩ := failedRows_parseable row (mem_rowsOfTier listed)
      exact ⟨created, parsed, fun _ impossible => by cases impossible⟩
  rw [kept]
  exact le_refl 2

/-- Behind a lookback of two the two failures suppress their tier. -/
theorem roi_overlay_settled_failing :
    ∃ overlay, buildRoiOverlay sampleRoiText (fun _ => none) (fun _ => some "local")
      "code_generation" (gateOfTwo 2) sampleRoiClock failedRows = .ok overlay ∧
      overlay.IsSuppressed "local" := by
  refine (roi_overlay_settled sampleRoiText (fun _ => none) (fun _ => some "local")
    "code_generation" (gateOfTwo 2) sampleRoiClock failedRows_ids
    failedRows_parseable).2.2.1 none "local" (gateOfTwo_gates 2) (failedRows_failing 2) ?_
  intro count set
  cases set
  exact le_refl 2

/-- Behind a lookback of one they do not. -/
theorem thin_lookback_not_suppressed :
    ¬ ∀ (text : RoiText) (environ : Environ) (tierOfEndpoint : String → Option String)
      (taskType : String) (arguments : RoiArguments) (now : RoiClock) (rows : List RoiRow),
      DistinctIds text rows → Parseable text rows → ∀ cutoff tier,
      Gates taskType now (arguments.resolve text environ) cutoff →
      RecentlyFailing text tierOfEndpoint (arguments.resolve text environ) cutoff rows tier →
      (∀ count ∈ (arguments.resolve text environ).lookbackRows, 1 ≤ count) →
      ∃ overlay, buildRoiOverlay text environ tierOfEndpoint taskType arguments now rows =
        .ok overlay ∧ overlay.IsSuppressed tier := by
  intro claimed
  obtain ⟨overlay, built, suppressed⟩ := claimed sampleRoiText (fun _ => none)
    (fun _ => some "local") "code_generation" (gateOfTwo 1) sampleRoiClock failedRows
    failedRows_ids failedRows_parseable none "local" (gateOfTwo_gates 1) (failedRows_failing 1)
    (by intro count set; cases set; exact le_refl 1)
  exact overlay_thin failedRows_parseable rfl (le_refl 1) (by decide) built "local" suppressed

end OmniMarket
