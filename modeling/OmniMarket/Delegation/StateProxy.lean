import OmniMarket.Lib.PyText
import OmniMarket.Lib.Trace

/-!
# The durable state proxy

`DelegationWorkflowStateProxy` keeps the workflows that one dispatch has decoded or created.
An entry remembers the string object it was decoded from and counts only as long as that very
object is bound. Strings and workflows are objects here: a string has an identity, a workflow
is a place in the heap that the handler can overwrite.

A workflow that is created while no row is bound is remembered with the source `None`. A
dispatch that fails leaves it behind, and the next dispatch without a row takes it for its
own.
-/

namespace OmniMarket.StateProxy

/-! ## The proxy -/

/-- A `str` object. -/
structure StringObject where
  identity : ℕ
  text : String

/-- `a is b` between optional strings. -/
def sameObject : Option StringObject → Option StringObject → Bool
  | none, none => true
  | some a, some b => a.identity == b.identity
  | _, _ => false

structure StateCodec (σ : Type) where
  encode : σ → String
  decode : String → Except String σ

/-- `(source_payload_json, decoded_state)`, the state by its place in the heap. -/
structure CacheEntry where
  source : Option StringObject
  object : ℕ

structure ProxyState (σ : Type) where
  /-- The workflow objects made so far. -/
  heap : List σ
  cache : Uuid → Option CacheEntry
  /-- `HandlerDelegationWorkflow._shared_workflows`. -/
  shared : Uuid → Option ℕ

/-- The payload of the row bound for a key. A missing row and a row without a payload read
the same. -/
abbrev Rows := Uuid → Option StringObject

inductive ReadOutcome where
  | returned (object : ℕ)
  | keyError
  | decodeError (message : String)

variable {σ : Type}

/-- `self._cache[cid] = entry`, or the removal of the key. -/
def ProxyState.setCache (state : ProxyState σ) (cid : Uuid) (entry : Option CacheEntry) :
    ProxyState σ :=
  { state with cache := Function.update state.cache cid entry }

def ProxyState.allocate (state : ProxyState σ) (object : σ) : ProxyState σ :=
  { state with heap := state.heap ++ [object] }

def lookupBound (codec : StateCodec σ) (rows : Rows) (cid : Uuid) (state : ProxyState σ) :
    ReadOutcome × ProxyState σ :=
  let payload := rows cid
  -- Without a hit the bound row is decoded.
  let miss : ReadOutcome × ProxyState σ :=
    match payload with
    | none => (.keyError, state)
    | some bound =>
      match codec.decode bound.text with
      | .error message => (.decodeError message, state)
      | .ok decoded =>
        (.returned state.heap.length,
          (state.allocate decoded).setCache cid (some ⟨some bound, state.heap.length⟩))
  match state.cache cid with
  | some entry => if sameObject entry.source payload then (.returned entry.object, state) else miss
  | none => miss

/-- `__getitem__`; no rows are active outside a dispatch. -/
def getItem (codec : StateCodec σ) (rows : Option Rows) (cid : Uuid) (state : ProxyState σ) :
    ReadOutcome × ProxyState σ :=
  match rows with
  | none =>
    match state.shared cid with
    | some object => (.returned object, state)
    | none => (.keyError, state)
  | some rows => lookupBound codec rows cid state

def setItem (rows : Option Rows) (cid : Uuid) (object : ℕ) (state : ProxyState σ) :
    ProxyState σ :=
  match rows with
  | none => { state with shared := Function.update state.shared cid (some object) }
  | some rows => state.setCache cid (some ⟨rows cid, object⟩)

/-- `__delitem__`; a missing key raises and changes nothing. -/
def delItem (rows : Option Rows) (cid : Uuid) (state : ProxyState σ) : ProxyState σ :=
  match rows with
  | none => { state with shared := Function.update state.shared cid none }
  | some _ => state.setCache cid none

def contains (rows : Option Rows) (cid : Uuid) (state : ProxyState σ) : Bool :=
  match rows with
  | none => (state.shared cid).isSome
  | some rows =>
    match state.cache cid with
    | some entry => sameObject entry.source (rows cid) || (rows cid).isSome
    | none => (rows cid).isSome

/-- `flush`: the encoded state, or nothing for a key that the dispatch did not touch. -/
def flush (codec : StateCodec σ) (cid : Uuid) (state : ProxyState σ) :
    Option String × ProxyState σ :=
  match state.cache cid with
  | none => (none, state)
  | some entry => ((state.heap[entry.object]?).map codec.encode, state.setCache cid none)

/-! ## Dispatches -/

inductive HandlerStep (σ : Type) where
  | read (cid : Uuid)
  | contains (cid : Uuid)
  /-- A new workflow object. -/
  | create (value : σ)
  | set (cid : Uuid) (object : ℕ)
  /-- A change in place. -/
  | mutate (object : ℕ) (value : σ)
  | delete (cid : Uuid)

/-- What a step of the handler shows it. -/
inductive StepAnswer where
  | read (outcome : ReadOutcome)
  | contained (answer : Bool)
  | done

def handlerStep (codec : StateCodec σ) (rows : Rows) (state : ProxyState σ) :
    HandlerStep σ → ProxyState σ × StepAnswer
  | .read cid =>
    let (outcome, state) := getItem codec (some rows) cid state
    (state, .read outcome)
  | .contains cid => (state, .contained (contains (some rows) cid state))
  | .create value => (state.allocate value, .done)
  | .set cid object => (setItem (some rows) cid object state, .done)
  | .mutate object value => ({ state with heap := state.heap.set object value }, .done)
  | .delete cid => (delItem (some rows) cid state, .done)

/-- One dispatch: the row bound for its correlation id, what the handler does, and whether it
returns, so that its state is flushed. -/
structure Dispatch (σ : Type) where
  cid : Uuid
  payload : Option StringObject
  steps : List (HandlerStep σ)
  flushes : Bool

def Dispatch.rows (dispatch : Dispatch σ) : Rows :=
  fun cid => if cid = dispatch.cid then dispatch.payload else none

def dispatchStep (codec : StateCodec σ) (state : ProxyState σ) (dispatch : Dispatch σ) :
    ProxyState σ × Option String :=
  let handled := Trace.final (handlerStep codec dispatch.rows) state dispatch.steps
  if dispatch.flushes then
    let (persisted, flushed) := flush codec dispatch.cid handled
    (flushed, persisted)
  else (handled, none)

/-- A proxy that nothing has touched. -/
def initialProxy : ProxyState σ where
  heap := []
  cache _ := none
  shared _ := none

def proxyAfter (codec : StateCodec σ) (run : List (Dispatch σ)) : ProxyState σ :=
  Trace.final (dispatchStep codec) initialProxy run

/-! ## Reading -/

theorem sameObject_none {source : Option StringObject} :
    sameObject source none = true ↔ source = none := by
  cases source with
  | none => exact ⟨fun _ => rfl, fun _ => rfl⟩
  | some bound =>
    constructor
    · exact nofun
    · exact nofun

section

variable {codec : StateCodec σ} {rows : Rows} {cid key : Uuid} {state : ProxyState σ}

def ProxyState.load (state : ProxyState σ) (cid : Uuid) (bound : StringObject) (decoded : σ) :
    ProxyState σ :=
  (state.allocate decoded).setCache cid (some ⟨some bound, state.heap.length⟩)

section

variable (codec : StateCodec σ)

theorem lookupBound_cases (rows : Rows) (cid : Uuid) (state : ProxyState σ) :
    (∃ entry, state.cache cid = some entry ∧ sameObject entry.source (rows cid) = true ∧
      lookupBound codec rows cid state = (.returned entry.object, state)) ∨
    ((∀ entry, state.cache cid = some entry → sameObject entry.source (rows cid) = false) ∧
      ((rows cid = none ∧ lookupBound codec rows cid state = (.keyError, state)) ∨
      (∃ bound message, rows cid = some bound ∧ codec.decode bound.text = .error message ∧
        lookupBound codec rows cid state = (.decodeError message, state)) ∨
      ∃ bound decoded, rows cid = some bound ∧ codec.decode bound.text = .ok decoded ∧
        lookupBound codec rows cid state =
          (.returned state.heap.length, state.load cid bound decoded))) := by
  -- an entry whose source is not the bound row is passed over
  have miss (missed : ∀ entry, state.cache cid = some entry →
      sameObject entry.source (rows cid) = false) :
      lookupBound codec rows cid state =
        match rows cid with
        | none => (.keyError, state)
        | some bound =>
          match codec.decode bound.text with
          | .error message => (.decodeError message, state)
          | .ok decoded => (.returned state.heap.length, state.load cid bound decoded) := by
    unfold lookupBound
    dsimp only
    cases cached : state.cache cid with
    | none => rfl
    | some entry =>
      dsimp only
      rw [missed entry cached, if_neg Bool.false_ne_true]
      rfl
  by_cases hit : ∃ entry, state.cache cid = some entry ∧ sameObject entry.source (rows cid) = true
  · obtain ⟨entry, cached, same⟩ := hit
    left
    refine ⟨entry, cached, same, ?_⟩
    unfold lookupBound
    dsimp only
    rw [cached]
    dsimp only
    rw [if_pos same]
  · right
    have missed : ∀ entry, state.cache cid = some entry →
        sameObject entry.source (rows cid) = false := by
      intro entry cached
      cases same : sameObject entry.source (rows cid) with
      | false => rfl
      | true => exact absurd ⟨entry, cached, same⟩ hit
    refine ⟨missed, ?_⟩
    rw [miss missed]
    cases rows cid with
    | none => exact Or.inl ⟨rfl, rfl⟩
    | some bound =>
      right
      dsimp only
      cases decoding : codec.decode bound.text with
      | error message => exact Or.inl ⟨bound, message, rfl, decoding, rfl⟩
      | ok decoded => exact Or.inr ⟨bound, decoded, rfl, decoding, rfl⟩

theorem contains_iff_getItem (rows : Option Rows) (cid : Uuid) (state : ProxyState σ) :
    contains rows cid state = true ↔ (getItem codec rows cid state).1 ≠ .keyError := by
  cases rows with
  | none =>
    unfold contains getItem
    dsimp only
    cases state.shared cid <;> simp
  | some rows =>
    show (match state.cache cid with
      | some entry => sameObject entry.source (rows cid) || (rows cid).isSome
      | none => (rows cid).isSome) = true ↔ (lookupBound codec rows cid state).1 ≠ .keyError
    rcases lookupBound_cases codec rows cid state with
      ⟨entry, cached, same, found⟩ | ⟨missed, outcome⟩
    · rw [cached, found]
      simp [same]
    · have bound : (match state.cache cid with
          | some entry => sameObject entry.source (rows cid) || (rows cid).isSome
          | none => (rows cid).isSome) = (rows cid).isSome := by
        cases cached : state.cache cid with
        | none => rfl
        | some entry =>
          dsimp only
          rw [missed entry cached, Bool.false_or]
      rw [bound]
      rcases outcome with ⟨row, found⟩ | ⟨_, _, row, _, found⟩ | ⟨_, _, row, _, found⟩
      · rw [row, found]
        simp
      · rw [row, found]
        simp
      · rw [row, found]
        simp

/-! ## What a run leaves behind -/

@[simp] theorem setCache_self (entry : Option CacheEntry) :
    (state.setCache cid entry).cache cid = entry := Function.update_self ..

theorem setCache_other (entry : Option CacheEntry) (other : key ≠ cid) :
    (state.setCache cid entry).cache key = state.cache key := Function.update_of_ne other ..

/-- The cache holds a workflow for the key that was created while no row was bound. -/
def ProxyState.heldWithoutRow (state : ProxyState σ) (cid : Uuid) : Bool :=
  match state.cache cid with
  | some entry => entry.source.isNone
  | none => false

def loads : Option StringObject → Bool
  | none => false
  | some bound =>
    match codec.decode bound.text with
    | .ok _ => true
    | .error _ => false

/-- Whether a created workflow is held for the key after a step, from the row bound for the
key and whether one was held before. -/
def createdAfter (payload : Option StringObject) (cid : Uuid) (created : Bool) :
    HandlerStep σ → Bool
  | .set key _ => if key = cid then payload.isNone else created
  | .delete key => if key = cid then false else created
  | .read key => if key = cid && loads codec payload then false else created
  | _ => created

end

theorem heldWithoutRow_congr {other : ProxyState σ} (same : other.cache cid = state.cache cid) :
    other.heldWithoutRow cid = state.heldWithoutRow cid := by
  unfold ProxyState.heldWithoutRow
  rw [same]

theorem heldWithoutRow_lookup :
    (lookupBound codec rows cid state).2.heldWithoutRow cid =
      if loads codec (rows cid) then false else state.heldWithoutRow cid := by
  rcases lookupBound_cases codec rows cid state with
    ⟨entry, cached, same, found⟩ |
    ⟨missed, ⟨row, found⟩ | ⟨bound, message, row, decoding, found⟩ |
      ⟨bound, decoded, row, decoding, found⟩⟩
  · rw [found]
    cases row : rows cid with
    | none => rfl
    | some bound =>
      -- A hit on a bound row has a source.
      have unheld : state.heldWithoutRow cid = false := by
        unfold ProxyState.heldWithoutRow
        rw [cached]
        show entry.source.isNone = false
        cases source : entry.source with
        | some _ => rfl
        | none =>
          rw [source, row] at same
          cases same
      rw [unheld, ite_self]
  · rw [found, row]
    rfl
  · rw [found, row, loads, decoding]
    rfl
  · rw [found, row, loads, decoding]
    show (state.load cid bound decoded).heldWithoutRow cid = false
    unfold ProxyState.heldWithoutRow ProxyState.load
    rw [setCache_self]
    rfl

theorem lookupBound_cache_other (other : key ≠ cid) :
    (lookupBound codec rows cid state).2.cache key = state.cache key := by
  rcases lookupBound_cases codec rows cid state with
    ⟨entry, cached, same, found⟩ |
    ⟨missed, ⟨row, found⟩ | ⟨bound, message, row, decoding, found⟩ |
      ⟨bound, decoded, row, decoding, found⟩⟩
  · rw [found]
  · rw [found]
  · rw [found]
  · rw [found]
    exact setCache_other _ other

theorem heldWithoutRow_step (step : HandlerStep σ) :
    (handlerStep codec rows state step).1.heldWithoutRow cid =
      createdAfter codec (rows cid) cid (state.heldWithoutRow cid) step := by
  cases step with
  | contains _ => rfl
  | create _ => rfl
  | mutate _ _ => rfl
  | read key =>
    show (lookupBound codec rows key state).2.heldWithoutRow cid = _
    dsimp only [createdAfter]
    by_cases same : key = cid
    · subst same
      rw [heldWithoutRow_lookup, decide_eq_true rfl, Bool.true_and]
    · rw [heldWithoutRow_congr (lookupBound_cache_other (Ne.symm same)), decide_eq_false same,
        Bool.false_and, if_neg Bool.false_ne_true]
  | set key object =>
    show (state.setCache key (some ⟨rows key, object⟩)).heldWithoutRow cid = _
    dsimp only [createdAfter]
    by_cases same : key = cid
    · subst same
      rw [if_pos rfl, ProxyState.heldWithoutRow, setCache_self]
    · rw [if_neg same, heldWithoutRow_congr (setCache_other _ (Ne.symm same))]
  | delete key =>
    show (state.setCache key none).heldWithoutRow cid = _
    dsimp only [createdAfter]
    by_cases same : key = cid
    · subst same
      rw [if_pos rfl, ProxyState.heldWithoutRow, setCache_self]
    · rw [if_neg same, heldWithoutRow_congr (setCache_other _ (Ne.symm same))]

theorem heldWithoutRow_steps (steps : List (HandlerStep σ)) :
    (Trace.final (handlerStep codec rows) state steps).heldWithoutRow cid =
      steps.foldl (createdAfter codec (rows cid) cid) (state.heldWithoutRow cid) := by
  induction steps generalizing state with
  | nil => rfl
  | cons step rest ih =>
    rw [List.foldl_cons, ← heldWithoutRow_step]
    exact ih

/-- Whether a created workflow is held for the key after a dispatch: the steps of its handler
decide, and a flush of the key gives it up. -/
def createdAfterDispatch (codec : StateCodec σ) (cid : Uuid) (created : Bool)
    (dispatch : Dispatch σ) : Bool :=
  let handled := dispatch.steps.foldl (createdAfter codec (dispatch.rows cid) cid) created
  if dispatch.flushes && dispatch.cid = cid then false else handled

/-- The run has left a created workflow behind for the key: a handler that had no row for it
set it, and since then it was not flushed, deleted, set beside a row or decoded over. -/
def leftBehind (codec : StateCodec σ) (cid : Uuid) (run : List (Dispatch σ)) : Bool :=
  run.foldl (createdAfterDispatch codec cid) false

theorem flush_cache_self : (flush codec cid state).2.cache cid = none := by
  unfold flush
  cases cached : state.cache cid with
  | none => exact cached
  | some entry => exact setCache_self none

theorem flush_cache_other (other : key ≠ cid) :
    (flush codec cid state).2.cache key = state.cache key := by
  unfold flush
  cases state.cache cid with
  | none => rfl
  | some entry => exact setCache_other none other

theorem heldWithoutRow_dispatch (dispatch : Dispatch σ) :
    (dispatchStep codec state dispatch).1.heldWithoutRow cid =
      createdAfterDispatch codec cid (state.heldWithoutRow cid) dispatch := by
  have handled : (Trace.final (handlerStep codec dispatch.rows) state
        dispatch.steps).heldWithoutRow cid =
      dispatch.steps.foldl (createdAfter codec (dispatch.rows cid) cid)
        (state.heldWithoutRow cid) := heldWithoutRow_steps dispatch.steps
  unfold dispatchStep createdAfterDispatch
  dsimp only
  rw [← handled]
  cases dispatch.flushes with
  | false => rfl
  | true =>
    rw [if_pos rfl, Bool.true_and]
    by_cases same : dispatch.cid = cid
    · subst same
      rw [decide_eq_true rfl, if_pos rfl]
      show (flush codec dispatch.cid _).2.heldWithoutRow dispatch.cid = false
      rw [ProxyState.heldWithoutRow, flush_cache_self]
    · rw [decide_eq_false same, if_neg Bool.false_ne_true]
      exact heldWithoutRow_congr (flush_cache_other (Ne.symm same))

theorem heldWithoutRow_run (run : List (Dispatch σ)) :
    (proxyAfter codec run).heldWithoutRow cid = leftBehind codec cid run := by
  have general (state : ProxyState σ) :
      (Trace.final (dispatchStep codec) state run).heldWithoutRow cid =
        run.foldl (createdAfterDispatch codec cid) (state.heldWithoutRow cid) := by
    induction run generalizing state with
    | nil => rfl
    | cons dispatch rest ih =>
      rw [List.foldl_cons, ← heldWithoutRow_dispatch]
      exact ih _
  exact general initialProxy

/-! ## Fresh rows -/

def Dispatch.identities (dispatch : Dispatch σ) : List ℕ :=
  (dispatch.payload.map StringObject.identity).toList

/-- Every row of the run is a string object of its own. -/
def FreshPayloads (run : List (Dispatch σ)) : Prop :=
  (run.flatMap Dispatch.identities).Nodup

def SourcesFrom (identities : List ℕ) (state : ProxyState σ) : Prop :=
  ∀ key entry bound, state.cache key = some entry → entry.source = some bound →
    bound.identity ∈ identities

variable {entry : CacheEntry}

theorem handlerStep_cache {step : HandlerStep σ}
    (cached : (handlerStep codec rows state step).1.cache key = some entry) :
    state.cache key = some entry ∨ entry.source = rows key := by
  have updated {other : Uuid} {made : Option CacheEntry} {base : ProxyState σ}
      (sameCache : base.cache = state.cache)
      (sourced : ∀ entry, made = some entry → entry.source = rows other)
      (found : (base.setCache other made).cache key = some entry) :
      state.cache key = some entry ∨ entry.source = rows key := by
    by_cases same : key = other
    · subst same
      rw [setCache_self] at found
      exact Or.inr (sourced entry found)
    · rw [setCache_other _ same, sameCache] at found
      exact Or.inl found
  cases step with
  | contains _ => exact Or.inl cached
  | create _ => exact Or.inl cached
  | mutate _ _ => exact Or.inl cached
  | set other object =>
    exact updated rfl (by rintro _ ⟨⟩; rfl) cached
  | delete other =>
    exact updated rfl (by rintro _ ⟨⟩) cached
  | read other =>
    replace cached : (lookupBound codec rows other state).2.cache key = some entry := cached
    rcases lookupBound_cases codec rows other state with
      ⟨_, _, _, found⟩ | ⟨_, ⟨_, found⟩ | ⟨_, _, _, _, found⟩ | ⟨bound, decoded, row, _, found⟩⟩
    · rw [found] at cached
      exact Or.inl cached
    · rw [found] at cached
      exact Or.inl cached
    · rw [found] at cached
      exact Or.inl cached
    · rw [found] at cached
      exact updated rfl (by rintro _ ⟨⟩; exact row.symm) cached

variable {steps : List (HandlerStep σ)}

theorem handlerSteps_cache
    (cached : (Trace.final (handlerStep codec rows) state steps).cache key = some entry) :
    state.cache key = some entry ∨ entry.source = rows key := by
  induction steps generalizing state with
  | nil => exact Or.inl cached
  | cons step rest ih =>
    rcases ih cached with kept | sourced
    · exact handlerStep_cache kept
    · exact Or.inr sourced

theorem flush_cache (cached : (flush codec cid state).2.cache key = some entry) :
    state.cache key = some entry := by
  by_cases same : key = cid
  · subst same
    rw [flush_cache_self] at cached
    cases cached
  · rwa [flush_cache_other same] at cached

variable {dispatch : Dispatch σ}

theorem dispatchStep_cache (cached : (dispatchStep codec state dispatch).1.cache key = some entry) :
    state.cache key = some entry ∨ entry.source = dispatch.rows key := by
  unfold dispatchStep at cached
  dsimp only at cached
  split at cached
  · exact handlerSteps_cache (flush_cache cached)
  · exact handlerSteps_cache cached

theorem sourcesFrom_run (run : List (Dispatch σ)) :
    SourcesFrom (run.flatMap Dispatch.identities) (proxyAfter codec run) := by
  induction run using List.reverseRecOn with
  | nil =>
    intro key entry bound cached
    cases cached
  | append_singleton before dispatch ih =>
    intro key entry bound cached source
    rw [proxyAfter, Trace.final_append] at cached
    rw [List.flatMap_append, List.mem_append]
    rcases dispatchStep_cache cached with earlier | bySource
    · exact Or.inl (ih key entry bound earlier source)
    · right
      rw [source, Dispatch.rows] at bySource
      split at bySource
      · rw [List.flatMap_singleton, Dispatch.identities, ← bySource]
        exact List.mem_singleton.2 rfl
      · cases bySource

/-! ## First reads -/

def HandlerStep.accesses (cid : Uuid) : HandlerStep σ → Bool
  | .read key => key = cid
  | .set key _ => key = cid
  | .delete key => key = cid
  | _ => false

/-- No step so far has read, set or deleted the workflow of the key. -/
def Untouched (cid : Uuid) (steps : List (HandlerStep σ)) : Prop :=
  ∀ step ∈ steps, step.accesses cid = false

theorem handlerStep_untouched {step : HandlerStep σ} (untouched : step.accesses cid = false) :
    (handlerStep codec rows state step).1.cache cid = state.cache cid := by
  cases step with
  | contains _ => rfl
  | create _ => rfl
  | mutate _ _ => rfl
  | read key => exact lookupBound_cache_other (Ne.symm (of_decide_eq_false untouched))
  | set key _ => exact setCache_other _ (Ne.symm (of_decide_eq_false untouched))
  | delete key => exact setCache_other _ (Ne.symm (of_decide_eq_false untouched))

theorem handlerSteps_untouched (untouched : Untouched cid steps) :
    (Trace.final (handlerStep codec rows) state steps).cache cid = state.cache cid := by
  induction steps generalizing state with
  | nil => rfl
  | cons step rest ih =>
    have first : (handlerStep codec rows state step).1.cache cid = state.cache cid :=
      handlerStep_untouched (untouched step (List.mem_cons_self ..))
    rw [← first]
    exact ih fun later listed => untouched later (List.mem_cons_of_mem _ listed)

/-- What a first read must come to: absent without a row, and otherwise the bound payload,
decoded into an object that the read itself makes. -/
def FreshRead (codec : StateCodec σ) (payload : Option StringObject) (before : ProxyState σ)
    (read : ReadOutcome × ProxyState σ) : Prop :=
  match payload with
  | none => read.1 = .keyError
  | some bound =>
    match codec.decode bound.text with
    | .error message => read.1 = .decodeError message
    | .ok decoded => ∃ object, read.1 = .returned object ∧ before.heap.length ≤ object ∧
        read.2.heap[object]? = some decoded

/-- The handler of the dispatch reads its workflow before it sets or deletes it. -/
def Dispatch.ReadsFirst (dispatch : Dispatch σ) : Prop :=
  ∃ steps later, dispatch.steps = steps ++ .read dispatch.cid :: later ∧
    Untouched dispatch.cid steps

def FirstReadFresh (codec : StateCodec σ) (found : ProxyState σ) (dispatch : Dispatch σ) : Prop :=
  ∀ steps later, dispatch.steps = steps ++ .read dispatch.cid :: later →
    Untouched dispatch.cid steps →
    FreshRead codec dispatch.payload
      (Trace.final (handlerStep codec dispatch.rows) found steps)
      (getItem codec (some dispatch.rows) dispatch.cid
        (Trace.final (handlerStep codec dispatch.rows) found steps))

theorem freshRead_iff
    (mismatch : ∀ entry bound, state.cache cid = some entry → rows cid = some bound →
      sameObject entry.source (some bound) = false) :
    FreshRead codec (rows cid) state (lookupBound codec rows cid state) ↔
      (rows cid = none → state.heldWithoutRow cid = false) := by
  rcases lookupBound_cases codec rows cid state with
    ⟨entry, cached, same, found⟩ |
    ⟨missed, ⟨row, found⟩ | ⟨bound, message, row, decoding, found⟩ |
      ⟨bound, decoded, row, decoding, found⟩⟩
  · -- A hit: only a created workflow can match, and only in the place of a missing row.
    cases row : rows cid with
    | some bound =>
      rw [row, mismatch entry bound cached row] at same
      cases same
    | none =>
      have held : state.heldWithoutRow cid = true := by
        rw [row, sameObject_none] at same
        rw [ProxyState.heldWithoutRow, cached]
        show entry.source.isNone = true
        rw [same]
        rfl
      rw [found]
      constructor
      · exact nofun
      · intro unheld
        rw [held] at unheld
        cases unheld rfl
  · rw [found, row]
    refine ⟨fun _ _ => ?_, fun _ => rfl⟩
    unfold ProxyState.heldWithoutRow
    cases cached : state.cache cid with
    | none => rfl
    | some entry =>
      show entry.source.isNone = false
      cases source : entry.source with
      | some _ => rfl
      | none =>
        have mismatched := missed entry cached
        rw [source, row] at mismatched
        cases mismatched
  · rw [found, row]
    constructor
    · intro _ impossible
      cases impossible
    · intro _
      unfold FreshRead
      dsimp only
      rw [decoding]
  · rw [found, row]
    constructor
    · intro _ impossible
      cases impossible
    · intro _
      unfold FreshRead
      dsimp only
      rw [decoding]
      refine ⟨state.heap.length, rfl, le_rfl, ?_⟩
      show (state.heap ++ [decoded])[state.heap.length]? = some decoded
      rw [List.getElem?_append_right (le_refl _), Nat.sub_self]
      rfl

theorem Dispatch.rows_self (dispatch : Dispatch σ) :
    dispatch.rows dispatch.cid = dispatch.payload := if_pos rfl

theorem firstReadFresh_iff {found : ProxyState σ}
    (fresh : ∀ entry source bound, found.cache dispatch.cid = some entry →
      entry.source = some source → dispatch.payload = some bound →
      source.identity ≠ bound.identity) :
    FirstReadFresh codec found dispatch ↔
      (dispatch.payload = none → dispatch.ReadsFirst →
        found.heldWithoutRow dispatch.cid = false) := by
  have reads {steps : List (HandlerStep σ)} (untouched : Untouched dispatch.cid steps) :
      FreshRead codec dispatch.payload
          (Trace.final (handlerStep codec dispatch.rows) found steps)
          (getItem codec (some dispatch.rows) dispatch.cid
            (Trace.final (handlerStep codec dispatch.rows) found steps)) ↔
        (dispatch.payload = none → found.heldWithoutRow dispatch.cid = false) := by
    have kept : (Trace.final (handlerStep codec dispatch.rows) found steps).cache dispatch.cid =
        found.cache dispatch.cid := handlerSteps_untouched untouched
    rw [← heldWithoutRow_congr kept, ← dispatch.rows_self]
    refine freshRead_iff ?_
    intro entry bound cached row
    rw [kept] at cached
    rw [dispatch.rows_self] at row
    cases source : entry.source with
    | none => rfl
    | some held =>
      show (held.identity == bound.identity) = false
      exact beq_false_of_ne (fresh entry held bound cached source row)
  constructor
  · rintro freshReads unbound ⟨steps, later, split, untouched⟩
    exact (reads untouched).1 (freshReads steps later split untouched) unbound
  · intro unheld steps later split untouched
    exact (reads untouched).2 fun unbound => unheld unbound ⟨steps, later, split, untouched⟩

/-! ## Every run -/

def ProxyFresh (codec : StateCodec σ) (run : List (Dispatch σ)) : Prop :=
  ∀ before dispatch after, run = before ++ dispatch :: after →
    FirstReadFresh codec (proxyAfter codec before) dispatch ∧
    ∀ steps later, dispatch.steps = steps ++ later → ∀ cid,
      let reached := Trace.final (handlerStep codec dispatch.rows) (proxyAfter codec before) steps
      contains (some dispatch.rows) cid reached = true ↔
        (getItem codec (some dispatch.rows) cid reached).1 ≠ .keyError

def NoneLeftBehind (codec : StateCodec σ) (run : List (Dispatch σ)) : Prop :=
  ∀ before dispatch after, run = before ++ dispatch :: after → dispatch.payload = none →
    dispatch.ReadsFirst → leftBehind codec dispatch.cid before = false

theorem FreshPayloads.fresh {before after : List (Dispatch σ)}
    (payloads : FreshPayloads (before ++ dispatch :: after)) {bound : StringObject}
    (row : dispatch.payload = some bound) :
    bound.identity ∉ before.flatMap Dispatch.identities := by
  intro earlier
  unfold FreshPayloads at payloads
  rw [List.flatMap_append, List.flatMap_cons, List.nodup_append] at payloads
  refine payloads.2.2 _ earlier bound.identity ?_ rfl
  rw [Dispatch.identities, row]
  exact List.mem_append_left _ (List.mem_singleton.2 rfl)

/-- The first reads of a run are fresh exactly when no dispatch without a row reads a
workflow that an earlier dispatch created and left behind. -/
theorem first_reads_fresh_iff (codec : StateCodec σ) (run : List (Dispatch σ))
    (payloads : FreshPayloads run) : ProxyFresh codec run ↔ NoneLeftBehind codec run := by
  have each (before : List (Dispatch σ)) (dispatch : Dispatch σ) (after : List (Dispatch σ))
      (split : run = before ++ dispatch :: after) :
      FirstReadFresh codec (proxyAfter codec before) dispatch ↔
        (dispatch.payload = none → dispatch.ReadsFirst →
          leftBehind codec dispatch.cid before = false) := by
    rw [← heldWithoutRow_run]
    refine firstReadFresh_iff ?_
    intro entry source bound cached sourced row same
    refine FreshPayloads.fresh (split ▸ payloads) row ?_
    rw [← same]
    exact sourcesFrom_run before _ entry source cached sourced
  constructor
  · intro fresh before dispatch after split
    exact (each before dispatch after split).1 (fresh before dispatch after split).1
  · intro unheld before dispatch after split
    refine ⟨(each before dispatch after split).2 (unheld before dispatch after split), ?_⟩
    intro steps later _ cid
    exact contains_iff_getItem codec _ cid _

end

/-! ## A workflow left behind -/

def textCodec : StateCodec String where
  encode := id
  decode := .ok

/-- A leg without a row creates its workflow and fails; its redelivery, without a row as
well, reads it. -/
def abandonedCreation : List (Dispatch String) :=
  [⟨7, none, [.create "draft", .set 7 0], false⟩, ⟨7, none, [.read 7], true⟩]

/-- The redelivery finds the workflow of the failed leg instead of none. -/
theorem abandoned_creation_read : ¬ ProxyFresh textCodec abandonedCreation := by
  intro fresh
  have absent : (ReadOutcome.returned 0) = .keyError :=
    (fresh [⟨7, none, [.create "draft", .set 7 0], false⟩] ⟨7, none, [.read 7], true⟩ [] rfl).1
      [] [] rfl (by intro step listed; cases listed)
  cases absent

/-- A leg with a row fails after it changed its workflow; the redelivery binds the row anew. -/
def retriedLeg : List (Dispatch String) :=
  [⟨7, some ⟨1, "row"⟩, [.read 7, .mutate 0 "changed"], false⟩,
    ⟨7, some ⟨2, "row"⟩, [.read 7], true⟩]

theorem retried_leg_fresh_iff :
    ProxyFresh textCodec retriedLeg ↔ NoneLeftBehind textCodec retriedLeg :=
  first_reads_fresh_iff textCodec retriedLeg (by unfold FreshPayloads; decide)

end OmniMarket.StateProxy
