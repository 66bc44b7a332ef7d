import Mathlib
import OmniMarket.Lib.Lines

/-!
# The frozen tuple of a PR head

The identity of a candidate head, its key and the reason for which it supersedes another.
-/

namespace OmniMarket.HeadFreeze

open PyText
variable {tickets : List String}

/-- `_TICKET_ID_RE.match(ticket)` of a stripped text: no line feed is left for `$` to allow. -/
def isTicketId (unicode : UnicodeTable) (ticket : String) : Bool :=
  "OMN-".toList.isPrefixOf ticket.toList && !(ticket.toList.drop 4).isEmpty &&
    (ticket.toList.drop 4).all unicode.isDecimal

/-- What the validator of `ticket_set` leaves: sorted, distinct ticket ids. -/
structure IsTicketSet (unicode : UnicodeTable) (tickets : List String) : Prop where
  nonempty : tickets ≠ []
  sorted : tickets.Pairwise (· < ·)
  ids : ∀ ticket ∈ tickets, isTicketId unicode ticket = true

/-- Why `ticket_set` is refused. -/
inductive TicketSetError where
  | empty
  | malformed (ticket : String)

def normalizeTicketSet (unicode : UnicodeTable) (value : List String) :
    Except TicketSetError (List String) :=
  let cleaned := ((value.map stripString).filter fun ticket => ticket ≠ "").dedup
  if cleaned = [] then .error .empty
  else
    match cleaned.find? fun ticket => !isTicketId unicode ticket with
    | some ticket => .error (.malformed ticket)
    | none => .ok (cleaned.mergeSort fun a b => a ≤ b)

@[ext] structure ModelFrozenTuple (unicode : UnicodeTable) where
  repo : String
  prNumber : ℕ
  ticketSet : List String
  headSha : String
  baseRef : String
  contractDigest : String
  policyDigest : String
  positive : 1 ≤ prNumber
  tickets : IsTicketSet unicode ticketSet
  longSha : 7 ≤ headSha.length
  nonBlank : ∀ text ∈ [repo, headSha, baseRef, contractDigest, policyDigest], stripString text ≠ ""

instance (unicode : UnicodeTable) : DecidableEq (ModelFrozenTuple unicode) :=
  fun _ _ => decidable_of_iff _ ModelFrozenTuple.ext_iff.symm

/-- Why a freeze is superseded, in the order in which it is detected. -/
inductive EnumFreezeSupersedeReason where
  | synchronize
  | baseRetarget
  | contractDigestChange
  | policyDigestChange
  | ticketSetChange
deriving DecidableEq

variable {unicode : UnicodeTable}

/-- The PR of a tuple: the key of its active freeze. -/
def ModelFrozenTuple.pr (tuple : ModelFrozenTuple unicode) : String × ℕ :=
  (tuple.repo, tuple.prNumber)

def ModelFrozenTuple.freezeId (generateFingerprint : String → String → String → String)
    (tuple : ModelFrozenTuple unicode) : String :=
  let locus := tuple.repo ++ "#" ++ tuple.prNumber.repr ++ "@" ++ tuple.baseRef
  let symbol := tuple.headSha ++ ":" ++ tuple.contractDigest ++ ":" ++ tuple.policyDigest ++ ":" ++
    ",".intercalate tuple.ticketSet
  generateFingerprint "head_freeze_tuple" locus symbol

def otherPrMessage (old new : ModelFrozenTuple unicode) : String :=
  let shown (tuple : ModelFrozenTuple unicode) :=
    "(" ++ reprString unicode tuple.repo ++ ", " ++ tuple.prNumber.repr ++ ")"
  "classify_supersede_reason requires the same (repo, pr_number); got " ++ shown old ++ " vs " ++
    shown new

/-- `classify_supersede_reason`, with the message of its `ValueError`. -/
def classifySupersedeReason (old new : ModelFrozenTuple unicode) :
    Except String (Option EnumFreezeSupersedeReason) :=
  if old.pr ≠ new.pr then .error (otherPrMessage old new)
  else if old.headSha ≠ new.headSha then .ok (some .synchronize)
  else if old.baseRef ≠ new.baseRef then .ok (some .baseRetarget)
  else if old.contractDigest ≠ new.contractDigest then .ok (some .contractDigestChange)
  else if old.policyDigest ≠ new.policyDigest then .ok (some .policyDigestChange)
  else if old.ticketSet ≠ new.ticketSet then .ok (some .ticketSetChange)
  else .ok none

/-! ## Ticket sets -/

theorem mergeSort_eq_iff {cleaned : List String} (distinct : cleaned.Nodup) :
    cleaned.mergeSort (fun a b => a ≤ b) = tickets ↔
      tickets.Pairwise (· < ·) ∧ ∀ ticket, ticket ∈ tickets ↔ ticket ∈ cleaned := by
  have perm := List.mergeSort_perm cleaned fun a b => a ≤ b
  have ordered := @List.pairwise_mergeSort _ (fun a b : String => a ≤ b)
    (fun a b c => by simpa using le_trans) (fun a b => by simpa using le_total a b) cleaned
  have sorted : (cleaned.mergeSort fun a b => a ≤ b).Pairwise (· < ·) :=
    (ordered.and (perm.nodup_iff.2 distinct)).imp fun both =>
      lt_of_le_of_ne (of_decide_eq_true both.1) both.2
  constructor
  · rintro rfl
    exact ⟨sorted, fun ticket => perm.mem_iff⟩
  · rintro ⟨sorted', same⟩
    have perm' : tickets.Perm cleaned :=
      (List.perm_ext_iff_of_nodup (sorted'.imp ne_of_lt) distinct).2 same
    exact (perm.trans perm'.symm).eq_of_pairwise (fun a b _ _ lt gt => absurd gt (lt_asymm lt))
      sorted sorted'

/-- What is accepted, and as what: blanks aside every entry is an id, and the same ids in another
order, repeated or padded make the same tuple. -/
theorem normalizeTicketSet_eq_ok {value : List String} :
    normalizeTicketSet unicode value = .ok tickets ↔ IsTicketSet unicode tickets ∧
      ∀ ticket, ticket ∈ tickets ↔ ticket ≠ "" ∧ ∃ raw ∈ value, stripString raw = ticket := by
  have cleaned_iff : ∀ ticket,
      ticket ∈ ((value.map stripString).filter fun ticket => ticket ≠ "").dedup ↔
        ticket ≠ "" ∧ ∃ raw ∈ value, stripString raw = ticket := by
    simp [and_comm]
  have distinct := List.nodup_dedup ((value.map stripString).filter fun ticket => ticket ≠ "")
  simp only [← cleaned_iff, normalizeTicketSet]
  generalize ((value.map stripString).filter fun ticket => ticket ≠ "").dedup = cleaned at distinct ⊢
  by_cases none_left : cleaned = []
  · rw [if_pos none_left]
    refine iff_of_false (by simp) fun ⟨set, same⟩ => set.nonempty ?_
    exact List.eq_nil_iff_forall_not_mem.2 fun ticket => by simp [same, none_left]
  · rw [if_neg none_left]
    split
    · next ticket malformed =>
      refine iff_of_false (by simp) fun ⟨set, same⟩ => ?_
      have id := set.ids ticket ((same ticket).2 (List.mem_of_find?_eq_some malformed))
      simpa [id] using List.find?_some malformed
    · next each =>
      rw [Except.ok.injEq, mergeSort_eq_iff distinct]
      refine ⟨fun ⟨sorted, same⟩ => ⟨⟨?_, sorted, ?_⟩, same⟩, fun ⟨set, same⟩ => ⟨set.sorted, same⟩⟩
      · rintro rfl
        exact none_left (List.eq_nil_iff_forall_not_mem.2 fun ticket => by simp [← same])
      · intro ticket listed
        simpa using List.find?_eq_none.1 each ticket ((same ticket).1 listed)

section

variable (ascii : ∀ c, c.toNat < 128 → unicode.isDecimal c = c.isDigit)

include ascii

theorem delimiter_not_mem_ticket
    {ticket : String} (id : isTicketId unicode ticket = true) {delimiter : Char}
    (among : delimiter = ':' ∨ delimiter = ',') : delimiter ∉ ticket.toList := by
  unfold isTicketId at id
  simp only [Bool.and_eq_true, List.all_eq_true] at id
  obtain ⟨⟨lead, -⟩, digits⟩ := id
  obtain ⟨rest, whole⟩ := List.isPrefixOf_iff_prefix.1 lead
  intro listed
  rw [← whole] at listed digits
  rcases List.mem_append.1 listed with inLead | inRest
  · rcases among with rfl | rfl <;> revert inLead <;> decide
  · have digit : unicode.isDecimal delimiter = true := digits delimiter inRest
    rcases among with rfl | rfl
    · rw [ascii _ (by decide)] at digit
      exact absurd digit (by decide)
    · rw [ascii _ (by decide)] at digit
      exact absurd digit (by decide)

theorem joined_tickets_inj {tickets' : List String} (set : IsTicketSet unicode tickets)
    (set' : IsTicketSet unicode tickets')
    (same : [','].intercalate (tickets.map String.toList) =
      [','].intercalate (tickets'.map String.toList)) : tickets = tickets' := by
  have cut {list : List String} (listed : IsTicketSet unicode list) :
      ([','].intercalate (list.map String.toList)).splitOn ',' = list.map String.toList := by
    refine List.splitOn_intercalate ',' ?_ ?_
    · intro text among
      obtain ⟨ticket, own, rfl⟩ := List.mem_map.1 among
      exact delimiter_not_mem_ticket ascii (listed.ids ticket own) (.inr rfl)
    · simpa using listed.nonempty
  have lists := congrArg (List.splitOn ',') same
  rw [cut set, cut set'] at lists
  exact List.map_injective_iff.2 (fun _ _ => String.toList_inj.1) lists

theorem colon_not_mem_tickets
    (set : IsTicketSet unicode tickets) : ':' ∉ [','].intercalate (tickets.map String.toList) := by
  intro listed
  rcases mem_of_mem_intercalate listed with comma | ⟨text, among, inText⟩
  · exact absurd comma (by decide)
  · obtain ⟨ticket, own, rfl⟩ := List.mem_map.1 among
    exact delimiter_not_mem_ticket ascii (set.ids ticket own) (.inl rfl) inText

end

/-! ## The key -/

section

variable (tuple : ModelFrozenTuple unicode)

/-- What stands before the tickets in the key, cut at every `:`. -/
def ModelFrozenTuple.pieces : List (List Char) :=
  tuple.headSha.toList.splitOn ':' ++ tuple.contractDigest.toList.splitOn ':' ++
    tuple.policyDigest.toList.splitOn ':'

def ModelFrozenTuple.LocusRunsOver (first second : ModelFrozenTuple unicode) : Prop :=
  RunsOver '#' '@' first.repo.toList first.prNumber.repr.toList first.baseRef.toList
    second.repo.toList second.prNumber.repr.toList second.baseRef.toList

/-- The texts of two tuples differ in nothing but where the delimiters `#`, `@` and `:` of the key
stand. -/
structure ModelFrozenTuple.SameTexts (first second : ModelFrozenTuple unicode) : Prop where
  tickets : first.ticketSet = second.ticketSet
  pieces : first.pieces = second.pieces
  locus : (first.pr = second.pr ∧ first.baseRef = second.baseRef) ∨
    first.LocusRunsOver second ∨ second.LocusRunsOver first

def ModelFrozenTuple.locusText : List Char :=
  tuple.repo.toList ++ '#' :: (tuple.prNumber.repr.toList ++ '@' :: tuple.baseRef.toList)

def ModelFrozenTuple.digestText : List Char :=
  tuple.headSha.toList ++ ':' :: (tuple.contractDigest.toList ++ ':' :: tuple.policyDigest.toList)

end

variable {first second : ModelFrozenTuple unicode}

theorem digestText_eq_iff :
    first.digestText = second.digestText ↔ first.pieces = second.pieces := by
  have cut (tuple : ModelFrozenTuple unicode) : tuple.digestText.splitOn ':' = tuple.pieces := by
    unfold ModelFrozenTuple.digestText ModelFrozenTuple.pieces
    rw [List.splitOn_append_cons_self, List.splitOn_append_cons_self, List.append_assoc]
  rw [← cut first, ← cut second]
  constructor
  · exact congrArg _
  · intro same
    have joined := congrArg (List.intercalate [':']) same
    rwa [List.intercalate_splitOn, List.intercalate_splitOn] at joined

theorem locusText_eq_iff :
    first.locusText = second.locusText ↔
      (first.pr = second.pr ∧ first.baseRef = second.baseRef) ∨
        first.LocusRunsOver second ∨ second.LocusRunsOver first := by
  unfold ModelFrozenTuple.locusText
  rw [two_separators_iff (by decide) (not_mem_repr rfl _) (not_mem_repr rfl _) (not_mem_repr rfl _)
    (not_mem_repr rfl _)]
  refine or_congr ?_ Iff.rfl
  rw [ModelFrozenTuple.pr, ModelFrozenTuple.pr, Prod.mk.injEq, and_assoc, String.toList_inj,
    String.toList_inj, String.toList_inj, Nat.repr_inj]

theorem freezeId_eq_iff (ascii : ∀ c, c.toNat < 128 → unicode.isDecimal c = c.isDigit)
    {generateFingerprint : String → String → String → String}
    (injective : ∀ space locus symbol locus' symbol',
      generateFingerprint space locus symbol = generateFingerprint space locus' symbol' →
        locus = locus' ∧ symbol = symbol') :
    first.freezeId generateFingerprint = second.freezeId generateFingerprint ↔
      first.SameTexts second := by
  have texts (tuple : ModelFrozenTuple unicode) :
      (tuple.repo ++ "#" ++ tuple.prNumber.repr ++ "@" ++ tuple.baseRef).toList =
          tuple.locusText ∧
        (tuple.headSha ++ ":" ++ tuple.contractDigest ++ ":" ++ tuple.policyDigest ++ ":" ++
            ",".intercalate tuple.ticketSet).toList =
          tuple.digestText ++ ':' :: [','].intercalate (tuple.ticketSet.map String.toList) := by
    unfold ModelFrozenTuple.locusText ModelFrozenTuple.digestText
    constructor <;> simp [String.toList_intercalate]
  constructor
  · intro same
    obtain ⟨loci, symbols⟩ := injective _ _ _ _ _ same
    have loci := String.toList_inj.2 loci
    have symbols := String.toList_inj.2 symbols
    rw [(texts first).1, (texts second).1] at loci
    rw [(texts first).2, (texts second).2] at symbols
    -- the tickets have no `:`, so that the last one stands before them
    obtain ⟨digests, tickets⟩ := append_separator_inj (colon_not_mem_tickets ascii first.tickets)
      (colon_not_mem_tickets ascii second.tickets) symbols
    exact ⟨joined_tickets_inj ascii first.tickets second.tickets tickets,
      digestText_eq_iff.1 digests, locusText_eq_iff.1 loci⟩
  · intro same
    have loci := locusText_eq_iff.2 same.locus
    have digests := digestText_eq_iff.2 same.pieces
    rw [← (texts first).1, ← (texts second).1, String.toList_inj] at loci
    have symbols : _ = _ := congrArg₂ (fun text tickets => text ++ ':' ::
      [','].intercalate (List.map String.toList tickets)) digests same.tickets
    rw [← (texts first).2, ← (texts second).2, String.toList_inj] at symbols
    unfold ModelFrozenTuple.freezeId
    dsimp only
    rw [loci, symbols]

variable {old new : ModelFrozenTuple unicode}

theorem classifySupersedeReason_eq_none :
    classifySupersedeReason old new = .ok none ↔ old = new := by
  constructor
  · intro unchanged
    unfold classifySupersedeReason at unchanged
    split_ifs at unchanged with prs shas bases contracts policies tickets
    all_goals cases unchanged
    obtain ⟨repos, numbers⟩ := Prod.mk.inj (not_not.1 prs)
    exact ModelFrozenTuple.ext repos numbers (not_not.1 tickets) (not_not.1 shas) (not_not.1 bases)
      (not_not.1 contracts) (not_not.1 policies)
  · rintro rfl
    simp [classifySupersedeReason]

theorem classifySupersedeReason_ok (same : old.pr = new.pr) :
    ∃ reason, classifySupersedeReason old new = .ok reason := by
  unfold classifySupersedeReason
  rw [if_neg (not_not.2 same)]
  split_ifs <;> exact ⟨_, rfl⟩

end OmniMarket.HeadFreeze
