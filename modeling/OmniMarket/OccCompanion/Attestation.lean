import OmniMarket.OccCompanion.Files
import OmniMarket.OccCompanion.ObservedFacts

/-!
# Attestation of companion files

`verify_companion_attestation` compares the fingerprint of the observed files with that of the
recomputed plan.
-/

namespace OmniMarket.OccCompanion

open PyText
variable {observed planned paired : List ModelCompanionFile} {request : ModelOccCompanionRequest}
  {plan : ModelOccCompanionPlan}

/-! ## Attestation -/

structure ModelOccAttestationResult where
  accepted : Bool
  observedDigest : String
  expectedDigest : String
  reason : String

def verifyCompanionAttestation (env : CompanionEnv) (observedFiles : List ModelCompanionFile)
    (request : ModelOccCompanionRequest) : Except CompanionError ModelOccAttestationResult := do
  let recomputed ← computeCompanionPlan env request
  let observedDigest := deterministicFingerprint env observedFiles
  let expectedDigest := recomputed.deterministicDigest
  if observedDigest = expectedDigest then
    return {
      accepted := true
      observedDigest := observedDigest
      expectedDigest := expectedDigest
      reason := "ACCEPTED: observed companion is byte-reproducible from " ++
        "compute_companion_plan for " ++ productPr request ++ "." }
  else
    return {
      accepted := false
      observedDigest := observedDigest
      expectedDigest := expectedDigest
      reason := "REJECTED: observed companion files are not reproducible from " ++
        "compute_companion_plan for " ++ productPr request ++ " (observed_digest=" ++
        reprString env.unicode observedDigest ++ " != expected_digest=" ++
        reprString env.unicode expectedDigest ++ "). A hand-authored, tampered, or " ++
        "stale companion never byte-matches the canonical COMPUTE output; " ++
        "rerun the producer to regenerate it." }

def Attested (env : CompanionEnv) (observedFiles : List ModelCompanionFile)
    (request : ModelOccCompanionRequest) : Prop :=
  ∃ result, verifyCompanionAttestation env observedFiles request = .ok result ∧
    result.accepted = true

structure SameButFacts (observed planned : ModelCompanionFile) : Prop where
  path : observed.path = planned.path
  kind : observed.kind = planned.kind
  ticketId : observed.ticketId = planned.ticketId
  contractSha256 : observed.contractSha256 = planned.contractSha256
  contractEntrySha256 : observed.contractEntrySha256 = planned.contractEntrySha256
  content : SameContent observed planned

def SameFiles (observed planned : List ModelCompanionFile) : Prop :=
  ∃ paired : List ModelCompanionFile,
    paired.Perm observed ∧ List.Forall₂ SameButFacts paired planned

/-- The files agree in all that the fingerprint reads of a file. -/
def SameParts (observed planned : List ModelCompanionFile) : Prop :=
  (observed.map fileParts).Perm (planned.map fileParts)

/-- The files agree in all that the fingerprint reads of a file, and in one of them the
projection leaves out what it keeps or does not have in the other: a line that is no fact of the
receipt, a fact in another place, or another line end. -/
def Conceals (observed planned : List ModelCompanionFile) : Prop :=
  SameParts observed planned ∧ ∃ file ∈ observed, ∃ other ∈ planned,
    file.path = other.path ∧ file.kind = other.kind ∧ filePlaces file ≠ filePlaces other

section

variable (files : List ModelCompanionFile)

def joinedParts : List (List Char) :=
  (sortFiles files).flatMap fileParts

def Shifts (observed planned : List ModelCompanionFile) : Prop :=
  joinedParts observed ≠ joinedParts planned ∧
    partSeparator.intercalate (joinedParts observed) =
      partSeparator.intercalate (joinedParts planned)

/-! ## Order of the files -/

theorem kind_value_inj {kind other : EnumCompanionFileKind} (same : kind.value = other.value) :
    kind = other := by
  revert same
  cases kind <;> cases other <;> decide

theorem fileLe_iff (file other : ModelCompanionFile) :
    fileLe file other = true ↔ file.path < other.path ∨
      file.path = other.path ∧ file.kind.value ≤ other.kind.value := by
  simp [fileLe]

theorem fileLe_trans (a b c : ModelCompanionFile) (first : fileLe a b = true)
    (second : fileLe b c = true) : fileLe a c = true := by
  rw [fileLe_iff] at first second ⊢
  rcases first with before | ⟨same, kinds⟩
  · rcases second with before' | ⟨same', -⟩
    · exact .inl (String.lt_trans before before')
    · exact .inl (same' ▸ before)
  · rcases second with before' | ⟨same', kinds'⟩
    · exact .inl (same ▸ before')
    · exact .inr ⟨same.trans same', String.le_trans kinds kinds'⟩

theorem fileLe_total (a b : ModelCompanionFile) : (fileLe a b || fileLe b a) = true := by
  rw [Bool.or_eq_true, fileLe_iff, fileLe_iff]
  by_cases before : a.path < b.path
  · exact .inl (.inl before)
  by_cases behind : b.path < a.path
  · exact .inr (.inl behind)
  have same : a.path = b.path :=
    String.le_antisymm (String.not_lt.1 behind) (String.not_lt.1 before)
  exact (String.le_total a.kind.value b.kind.value).imp (fun kinds => .inr ⟨same, kinds⟩)
    (fun kinds => .inr ⟨same.symm, kinds⟩)

theorem fileLe_antisymm {a b : ModelCompanionFile} (first : fileLe a b = true)
    (second : fileLe b a = true) : a.path = b.path ∧ a.kind = b.kind := by
  rw [fileLe_iff] at first second
  rcases first with before | ⟨same, kinds⟩
  · rcases second with before' | ⟨same', -⟩
    · exact absurd before' (String.lt_asymm before)
    · rw [same'] at before
      exact absurd before (String.lt_irrefl _)
  · rcases second with before' | ⟨-, kinds'⟩
    · rw [same] at before'
      exact absurd before' (String.lt_irrefl _)
    · exact ⟨same, kind_value_inj (String.le_antisymm kinds kinds')⟩

theorem fileParts_eq_iff {file other : ModelCompanionFile} :
    fileParts file = fileParts other ↔ file.path = other.path ∧ file.kind = other.kind ∧
      file.ticketId = other.ticketId ∧ file.contractSha256 = other.contractSha256 ∧
      file.contractEntrySha256 = other.contractEntrySha256 ∧
      stripObservedFacts file.content = stripObservedFacts other.content := by
  simp only [fileParts, List.cons.injEq, String.toList_inj, and_true]
  constructor
  · rintro ⟨path, kind, rest⟩
    exact ⟨path, kind_value_inj kind, rest⟩
  · rintro ⟨path, kind, rest⟩
    exact ⟨path, congrArg _ kind, rest⟩

/-! ## Parts -/

def Keyed : Prop :=
  ∀ file ∈ files, ∀ other ∈ files, file.path = other.path → file.kind = other.kind → file = other

theorem flatMap_fileParts_inj {files others : List ModelCompanionFile}
    (same : files.flatMap fileParts = others.flatMap fileParts) :
    files.map fileParts = others.map fileParts := by
  induction files generalizing others with
  | nil =>
    cases others with
    | nil => rfl
    | cons other rest => cases same
  | cons file rest ih =>
    cases others with
    | nil => cases same
    | cons other rest' =>
      have cut := List.append_inj same rfl
      rw [List.map_cons, List.map_cons, cut.1, ih cut.2]

theorem sortFiles_perm : (sortFiles files).Perm files :=
  List.mergeSort_perm files _

theorem sortFiles_pairwise :
    (sortFiles files).Pairwise fun a b => fileLe a b = true :=
  List.pairwise_mergeSort fileLe_trans fileLe_total files

/-- Parts of one file are not behind those of another. -/
def PartsLe (parts parts' : List (List Char)) : Prop :=
  ∃ file other, fileParts file = parts ∧ fileParts other = parts' ∧ fileLe file other = true

theorem map_sortFiles_pairwise : ((sortFiles files).map fileParts).Pairwise PartsLe := by
  rw [List.pairwise_map]
  exact (sortFiles_pairwise files).imp fun ordered => ⟨_, _, rfl, rfl, ordered⟩

end

theorem joinedParts_eq_iff (keyed : Keyed planned) :
    joinedParts observed = joinedParts planned ↔ SameParts observed planned := by
  have sorted : ∀ files, ((sortFiles files).map fileParts).Perm (files.map fileParts) :=
    fun files => (sortFiles_perm files).map fileParts
  constructor
  · intro same
    have lists := flatMap_fileParts_inj same
    exact (sorted observed).symm.trans (lists ▸ sorted planned)
  · intro same
    have parts : (sortFiles observed).map fileParts = (sortFiles planned).map fileParts := by
      refine List.Perm.eq_of_pairwise ?_ (map_sortFiles_pairwise observed)
        (map_sortFiles_pairwise planned)
        ((sorted observed).trans (same.trans (sorted planned).symm))
      -- parts in both orders are those of one file of the plan
      rintro x y listed listed' ⟨a, b, rfl, rfl, ordered⟩ ⟨b', a', parts, parts', ordered'⟩
      obtain ⟨p, among, same_p⟩ := List.mem_map.1 ((sorted planned).subset
        (((sorted observed).trans (same.trans (sorted planned).symm)).subset listed))
      obtain ⟨q, among', same_q⟩ := List.mem_map.1 ((sorted planned).subset listed')
      have back : fileLe b a = true := by
        obtain ⟨path, kind, -⟩ := fileParts_eq_iff.1 parts
        obtain ⟨path', kind', -⟩ := fileParts_eq_iff.1 parts'
        rw [fileLe_iff] at ordered' ⊢
        rwa [← path, ← path', ← kind, ← kind']
      obtain ⟨path, kind⟩ := fileLe_antisymm ordered back
      obtain ⟨path_p, kind_p, -⟩ := fileParts_eq_iff.1 same_p
      obtain ⟨path_q, kind_q, -⟩ := fileParts_eq_iff.1 same_q
      have one : p = q := keyed p among q among' (by rw [path_p, path_q, path])
        (by rw [kind_p, kind_q, kind])
      rw [← same_p, ← same_q, one]
    unfold joinedParts
    rw [List.flatMap_def, List.flatMap_def, parts]

/-! ## Files -/

theorem forall₂_fileParts :
    List.Forall₂ (fun file other => fileParts file = fileParts other) paired planned ↔
      paired.map fileParts = planned.map fileParts := by
  have equal := @List.forall₂_eq_eq_eq (List (List Char))
  rw [← equal, List.forall₂_map_left_iff, List.forall₂_map_right_iff]

theorem exists_pair {Same : ModelCompanionFile → ModelCompanionFile → Prop}
    {file : ModelCompanionFile} (pairs : List.Forall₂ Same paired planned)
    (listed : file ∈ paired) : ∃ other ∈ planned, Same file other := by
  induction pairs with
  | nil => cases listed
  | cons same _ ih =>
    rcases List.mem_cons.1 listed with rfl | later
    · exact ⟨_, List.mem_cons_self, same⟩
    · obtain ⟨other, among, pair⟩ := ih later
      exact ⟨other, List.mem_cons_of_mem _ among, pair⟩

theorem sameParts_iff :
    SameParts observed planned ↔ ∃ paired : List ModelCompanionFile, paired.Perm observed ∧
      paired.map fileParts = planned.map fileParts := by
  constructor
  · intro same
    have own : List.Forall₂ (fun file parts => fileParts file = parts) observed
        (observed.map fileParts) := by
      rw [List.forall₂_map_right_iff, List.forall₂_same]
      exact fun _ _ => rfl
    obtain ⟨paired, order, parts⟩ := List.forall₂_comp_perm_eq_perm_comp_forall₂.le _ _
      ⟨_, own, same⟩
    refine ⟨paired, order.symm, ?_⟩
    exact forall₂_fileParts.1 (List.forall₂_map_right_iff.1 parts)
  · rintro ⟨paired, order, parts⟩
    unfold SameParts
    rw [← parts]
    exact (order.map fileParts).symm

/-- The projection leaves out the same of each file. -/
def SamePlaces (observed planned : List ModelCompanionFile) : Prop :=
  ∀ file ∈ observed, ∀ other ∈ planned, file.path = other.path → file.kind = other.kind →
    filePlaces file = filePlaces other

theorem sameFiles_iff (keyed : Keyed planned) :
    SameFiles observed planned ↔ SameParts observed planned ∧ SamePlaces observed planned := by
  rw [sameParts_iff]
  constructor
  · rintro ⟨paired, order, pairs⟩
    refine ⟨⟨paired, order, forall₂_fileParts.1 (pairs.imp ?_)⟩, ?_⟩
    · intro file other same
      exact fileParts_eq_iff.2 ⟨same.path, same.kind, same.ticketId, same.contractSha256,
        same.contractEntrySha256, ((sameContent_iff file other).1 same.content).1⟩
    · intro file listed other among path kind
      obtain ⟨partner, planned_too, same⟩ := exists_pair pairs (order.symm.subset listed)
      have one : partner = other := keyed partner planned_too other among
        (same.path.symm.trans path) (same.kind.symm.trans kind)
      rw [← one]
      exact ((sameContent_iff file partner).1 same.content).2
  · rintro ⟨⟨paired, order, parts⟩, spots⟩
    refine ⟨paired, order, ?_⟩
    obtain ⟨lengths, zipped⟩ := List.forall₂_iff_zip.1 (forall₂_fileParts.2 parts)
    refine List.forall₂_iff_zip.2 ⟨lengths, fun {file other} within => ?_⟩
    obtain ⟨path, kind, ticket, sha, entry, text⟩ := fileParts_eq_iff.1 (zipped within)
    obtain ⟨left, right⟩ := List.of_mem_zip within
    exact ⟨path, kind, ticket, sha, entry, (sameContent_iff file other).2
      ⟨text, spots file (order.subset left) other right path kind⟩⟩

/-! ## Exactness -/

section

variable {env : CompanionEnv} (computed : computeCompanionPlan env request = .ok plan)
  (authored : plan.companionFiles ≠ [])

include computed authored

theorem keyed_companionFiles : Keyed plan.companionFiles := by
  obtain ⟨planned, returned, files, -⟩ := computeCompanionPlan_files computed authored
  rw [files]
  intro file listed other listed' path kind
  obtain ⟨made, among, rfl⟩ := List.mem_map.1 listed
  obtain ⟨made', among', rfl⟩ := List.mem_map.1 listed'
  rw [file_eq_of_path returned among among' path kind]

theorem attested_iff (injective : Function.Injective env.sha256)
    (observed : List ModelCompanionFile) :
    Attested env observed request ↔ partSeparator.intercalate (joinedParts observed) =
      partSeparator.intercalate (joinedParts plan.companionFiles) := by
  obtain ⟨-, -, -, digest⟩ := computeCompanionPlan_files computed authored
  have digests : deterministicFingerprint env observed = plan.deterministicDigest ↔
      partSeparator.intercalate (joinedParts observed) =
        partSeparator.intercalate (joinedParts plan.companionFiles) := by
    rw [digest]
    exact injective.eq_iff.trans String.ofList_inj
  rw [← digests]
  unfold Attested verifyCompanionAttestation
  rw [computed, Raising.bind_ok]
  dsimp only
  split
  · next same => exact ⟨fun _ => same, fun _ => ⟨_, rfl, rfl⟩⟩
  · next other =>
    constructor
    · rintro ⟨result, returned, accepted⟩
      cases returned
      cases accepted
    · intro same
      exact absurd same other

end

/-- The attestation is exact unless a file conceals something or the parts shift. -/
theorem attestation_exact_iff (env : CompanionEnv) (request : ModelOccCompanionRequest)
    (plan : ModelOccCompanionPlan) (computed : computeCompanionPlan env request = .ok plan)
    (authored : plan.companionFiles ≠ []) (injective : Function.Injective env.sha256)
    (observed : List ModelCompanionFile) :
    (Attested env observed request ↔ SameFiles observed plan.companionFiles) ↔
      ¬ Conceals observed plan.companionFiles ∧ ¬ Shifts observed plan.companionFiles := by
  have keyed := keyed_companionFiles computed authored
  have parts : joinedParts observed = joinedParts plan.companionFiles ↔
      SameParts observed plan.companionFiles := joinedParts_eq_iff keyed
  have conceals : Conceals observed plan.companionFiles ↔
      SameParts observed plan.companionFiles ∧ ¬ SamePlaces observed plan.companionFiles := by
    unfold Conceals SamePlaces
    push Not
    rfl
  rw [attested_iff computed authored injective, sameFiles_iff keyed, conceals]
  unfold Shifts
  rw [ne_eq, parts]
  constructor
  · intro exact_for
    refine ⟨fun hidden => hidden.2 ?_, fun shifted => shifted.1 ?_⟩
    · rw [← parts] at hidden
      exact (exact_for.1 (congrArg _ hidden.1)).2
    · exact (exact_for.1 shifted.2).1
  · rintro ⟨open_files, still⟩
    constructor
    · intro text
      have same : SameParts observed plan.companionFiles := by
        by_contra other
        exact still ⟨other, text⟩
      exact ⟨same, by_contra fun other => open_files ⟨same, other⟩⟩
    · rintro ⟨same, -⟩
      exact congrArg _ (parts.2 same)

/-! ## Sample -/

def sampleContractHash : String :=
  "8dd7df54bd1e2bafed68a8e40c6b5720906bda8693730a5add27e6f8ff8c7c5c"

def sampleReceipt (timestamp stdout : String) : ReceiptFields where
  ticketId := "OMN-1"
  evidenceId := "dod-acme-widget-pr-7"
  checkValue := "gh pr view 7 --repo acme/widget --json number,state,headRefName"
  contractSha256 := sampleContractHash
  contractEntrySha256 := sampleEntryHashes.lookup "dod-acme-widget-pr-7"
  runTimestamp := timestamp
  commitSha := "1234567"
  runner := "node_occ_companion_compute"
  verifier := "occ-evidence-source-autobind"
  probeCommand := "gh pr view 7"
  probeStdout := stdout
  actualOutput := "PASS: Evidence-Source autobind for OMN-1 from acme/widget#7."
  exitCode := 0
  prNumber := 7
  branch := "auto/acme-widget-pr-7-occ-autobind"

def sampleFiles (text timestamp stdout : String) : List PlannedFile :=
  [contractFile "OMN-1" text, fileOfReceipt .downstreamReceipt (sampleReceipt timestamp stdout)]

def samplePlanned : List PlannedFile := sampleFiles sampleText "2026-07-01T00:00:00+00:00" "OPEN"

def sampleDigests : List (String × String) :=
  [(sampleText, sampleContractHash),
    (fingerprintText (samplePlanned.map (·.file)),
      "cf1ceba10b072f77029f6e985db632875fcc39cf2aef7cad1a54ab2c0b3aba59")]

def attestedEnv : CompanionEnv := sampleEnv sampleDigests [(sampleText, sampleContract)]

theorem sha256_attestedEnv_injective : Function.Injective attestedEnv.sha256 :=
  sampleSha256_injective (by decide) (by decide)

theorem plannedFiles_attestedEnv : plannedFiles attestedEnv sampleRequest = .ok samplePlanned := by
  decide +kernel

theorem computeCompanionPlan_attestedEnv :
    ∃ plan, computeCompanionPlan attestedEnv sampleRequest = .ok plan ∧
      plan.companionFiles = samplePlanned.map (·.file) :=
  exists_computeCompanionPlan (by decide) (by decide +kernel) (by decide) plannedFiles_attestedEnv

theorem stripObservedFacts_append {line : String} (text : String)
    (dropped : keepsLine line.toList = false)
    (single : splitLines (line.toList ++ ['\n']) = [line.toList]) :
    stripObservedFacts (text ++ "\n" ++ (line ++ "\n")) = stripObservedFacts (text ++ "\n") := by
  have kept : ∀ (block : OpenBlock) (lines : List (List Char)),
      keptLines block (lines ++ [line.toList]) = keptLines block lines := by
    intro block lines
    induction lines generalizing block with
    | nil => simp [keptLines, dropped]
    | cons head rest ih => rw [List.cons_append, keptLines_cons, keptLines_cons, ih]
  have feed : "\n".toList = ['\n'] := by decide
  unfold stripObservedFacts
  rw [String.toList_append, String.toList_append, String.toList_append, feed, List.append_assoc,
    List.singleton_append, splitLines_append, single, kept]

/-- A key is added behind the last line of the contract. -/
def forgedText : String := sampleText ++ ("created_at: forged" ++ "\n")

theorem stripObservedFacts_forgedText :
    stripObservedFacts forgedText = stripObservedFacts sampleText := by
  obtain ⟨text, ends⟩ := sampleText_ends
  unfold forgedText
  rw [ends]
  exact stripObservedFacts_append text (by decide) (by decide)

theorem contractFile_spot (ticketId text other : String) :
    (contractFile ticketId text).file.path = (contractFile ticketId other).file.path ∧
      (contractFile ticketId text).file.kind = (contractFile ticketId other).file.kind :=
  ⟨rfl, rfl⟩

theorem fileParts_contractFile (ticketId : String) {text other : String}
    (same : stripObservedFacts text = stripObservedFacts other) :
    fileParts (contractFile ticketId text).file = fileParts (contractFile ticketId other).file :=
  fileParts_eq_iff.2 ⟨rfl, rfl, rfl, rfl, rfl, same⟩

def forgedFiles : List ModelCompanionFile :=
  (sampleFiles forgedText "2026-07-01T00:00:00+00:00" "OPEN").map (·.file)

/-- A contract with a key behind its last line passes for the planned one. -/
theorem forged_contract_attested :
    Function.Injective attestedEnv.sha256 ∧
    ∃ plan, computeCompanionPlan attestedEnv sampleRequest = .ok plan ∧
      plan.companionFiles ≠ [] ∧
      ¬ (Attested attestedEnv forgedFiles sampleRequest ↔
          SameFiles forgedFiles plan.companionFiles) := by
  obtain ⟨plan, computed, files⟩ := computeCompanionPlan_attestedEnv
  have authored : plan.companionFiles ≠ [] := by
    rw [files]
    decide
  refine ⟨sha256_attestedEnv_injective, plan, computed, authored, fun exact_for => ?_⟩
  have keyed := keyed_companionFiles computed authored
  have contract : fileParts (contractFile "OMN-1" forgedText).file =
      fileParts (contractFile "OMN-1" sampleText).file :=
    fileParts_contractFile "OMN-1" stripObservedFacts_forgedText
  have same : SameParts forgedFiles plan.companionFiles := by
    rw [files]
    exact List.Perm.of_eq (congrArg (· :: _) contract)
  have accepted := exact_for.1 ((attested_iff computed authored sha256_attestedEnv_injective _).2
    (congrArg _ ((joinedParts_eq_iff keyed).2 same)))
  have spots := ((sameFiles_iff keyed).1 accepted).2
  rw [files] at spots
  obtain ⟨path, kind⟩ := contractFile_spot "OMN-1" forgedText sampleText
  have places_same : filePlaces (contractFile "OMN-1" forgedText).file =
      filePlaces (contractFile "OMN-1" sampleText).file :=
    spots _ List.mem_cons_self _ List.mem_cons_self path kind
  have content : SameContent (contractFile "OMN-1" forgedText).file
      (contractFile "OMN-1" sampleText).file :=
    (sameContent_iff _ _).2 ⟨stripObservedFacts_forgedText, places_same⟩
  have longer : sampleText ++ ("created_at: forged" ++ "\n") = sampleText :=
    (sameContent_contract rfl rfl).1 content
  have nothing := congrArg String.toList longer
  rw [String.toList_append, List.append_right_eq_self] at nothing
  exact absurd nothing (by decide)

/-- The plan's own files are attested. -/
theorem attestation_exact_planned :
    ∃ plan, computeCompanionPlan attestedEnv sampleRequest = .ok plan ∧
      (Attested attestedEnv (samplePlanned.map (·.file)) sampleRequest ↔
        SameFiles (samplePlanned.map (·.file)) plan.companionFiles) := by
  obtain ⟨plan, computed, files⟩ := computeCompanionPlan_attestedEnv
  have authored : plan.companionFiles ≠ [] := by
    rw [files]
    decide
  have keyed := keyed_companionFiles computed authored
  refine ⟨plan, computed, (attestation_exact_iff attestedEnv sampleRequest plan computed authored
    sha256_attestedEnv_injective _).2 ⟨?_, ?_⟩⟩
  · rintro ⟨-, file, listed, other, listed', path, kind, differ⟩
    rw [← files] at listed
    rw [keyed file listed other listed' path kind] at differ
    exact differ rfl
  · rintro ⟨differ, -⟩
    rw [files] at differ
    exact differ rfl

end OmniMarket.OccCompanion
