import OmniMarket.OccCompanion.Render

/-!
# Observed facts of a companion file

When two files are the same but for what a probe observed, and what the fingerprint leaves out of
a file besides that. The facts of a receipt are keys at its own level; those of a supersession
are its `created_at` and, one level deeper, the keys of its replacement. A contract has none.
-/

namespace OmniMarket.OccCompanion

open PyText
variable {block : OpenBlock}

/-! ## Facts -/

inductive FactKey where
  | runTimestamp
  | probeCommand
  | probeStdout
  | exitCode
  | createdAt
deriving DecidableEq

def FactKey.name : FactKey → String
  | .runTimestamp => "run_timestamp"
  | .probeCommand => "probe_command"
  | .probeStdout => "probe_stdout"
  | .exitCode => "exit_code"
  | .createdAt => "created_at"

def FactKey.all : List FactKey :=
  [.runTimestamp, .probeCommand, .probeStdout, .exitCode, .createdAt]

def factLine (key : FactKey) (column : ℕ) : List Char :=
  List.replicate column ' ' ++ (key.name.toList ++ [':'])

def factColumn (kind : EnumCompanionFileKind) (within : Bool) (key : FactKey) : Option ℕ :=
  match kind with
  | .contract => none
  | .downstreamReceipt => some 0
  | .selfBindReceipt => some 0
  | .supersedeReceipt =>
    if key = .createdAt then some 0
    else if within then some 2
    else none

def ownFact (kind : EnumCompanionFileKind) (within : Bool) (line : List Char) :
    Option (FactKey × ℕ) :=
  FactKey.all.findSome? fun key =>
    match factColumn kind within key with
    | none => none
    | some column => if (factLine key column).isPrefixOf line then some (key, column) else none

/-- A key in the first column begins the replacement or ends it. -/
def withinAfter (within : Bool) (line : List Char) : Bool :=
  if line.head?.any fun c => !isSpace c then "replacement:".toList.isPrefixOf line else within

inductive Chunk where
  | fact (key : FactKey) (column : ℕ) (ending : List Char)
  | text (ended : EndedLine)
deriving DecidableEq

def Chunk.line : Chunk → List Char
  | .fact key column _ => factLine key column
  | .text ended => ended.line

/-- A text with the values of its facts left out. The value of `probe_stdout` is the block below
its key, that of another fact the rest of the line. -/
def chunks (kind : EnumCompanionFileKind) (within : Bool) (own : OpenBlock) :
    List EndedLine → List Chunk
  | [] => []
  | ended :: rest =>
    if insideBlock own ended.line then chunks kind within own rest
    else
      match ownFact kind within ended.line with
      | some (key, column) =>
        .fact key column ended.ending ::
          chunks kind (withinAfter within ended.line)
            (if key = .probeStdout then some column else none) rest
      | none => .text ended :: chunks kind (withinAfter within ended.line) none rest

def fileChunks (file : ModelCompanionFile) : List Chunk :=
  chunks file.kind false none (splitEnds file.content.toList)

/-! ## What the fingerprint leaves out -/

/-- A chunk that the fingerprint leaves out, or the end of a line that it keeps. -/
inductive Place where
  | kept (ending : List Char)
  | left (chunk : Chunk)
deriving DecidableEq

def Chunk.ending : Chunk → List Char
  | .fact _ _ ending => ending
  | .text ended => ended.ending

def leavesOut (block : OpenBlock) (line : List Char) : Bool :=
  insideBlock block line || !keepsLine line

def places (block : OpenBlock) : List Chunk → List Place
  | [] => []
  | chunk :: rest =>
    (if leavesOut block chunk.line then .left chunk else .kept chunk.ending) ::
      places (blockAfter block chunk.line) rest

def filePlaces (file : ModelCompanionFile) : List Place := places none (fileChunks file)

/-! ## Lines of facts -/

section

variable (key : FactKey) (column : ℕ) (value : List Char)

include key column value

theorem lstrip_factLine :
    lstrip (factLine key column ++ value) = key.name.toList ++ ':' :: value := by
  have spaces : ∀ rest, lstrip (List.replicate column ' ' ++ rest) = lstrip rest := by
    intro rest
    induction column with
    | zero => rfl
    | succ column ih => simpa [List.replicate_succ, lstrip, lstripWith, isSpace] using ih
  rw [factLine, List.append_assoc, List.append_assoc, spaces]
  cases key <;> rfl

theorem indentOf_factLine : indentOf (factLine key column ++ value) = column := by
  unfold indentOf factLine
  induction column with
  | zero => cases key <;> rfl
  | succ column ih => simp_all [List.replicate_succ, isSpace]

theorem blankLine_factLine : blankLine (factLine key column ++ value) = false := by
  simp [blankLine, factLine, isSpace]

theorem keepsLine_factLine : keepsLine (factLine key column ++ value) = false := by
  unfold keepsLine observedKeys startsWithKey
  rw [lstrip_factLine]
  cases key <;> simp [FactKey.name, List.isPrefixOf]

theorem startsWithStdout_factLine :
    startsWithKey (factLine key column ++ value) "probe_stdout" = decide (key = .probeStdout) := by
  unfold startsWithKey
  rw [lstrip_factLine]
  cases key <;> simp [FactKey.name, List.isPrefixOf]

end

theorem insideBlock_factLine (block : OpenBlock) (key : FactKey) (column : ℕ) (value : List Char) :
    insideBlock block (factLine key column ++ value) =
      block.elim false fun indent => decide (indent < column) := by
  unfold insideBlock
  simp only [blankLine_factLine, indentOf_factLine, Bool.false_or]

theorem blockAfter_factLine (block : OpenBlock) (key : FactKey) (column : ℕ) (value : List Char) :
    blockAfter block (factLine key column ++ value) =
      if block.elim false fun indent => decide (indent < column) then block
      else if key = .probeStdout then some column
      else none := by
  unfold blockAfter
  simp only [insideBlock_factLine, startsWithStdout_factLine, indentOf_factLine, decide_eq_true_eq]

theorem ownFact_eq_some {kind : EnumCompanionFileKind} {within : Bool} {line : List Char}
    {key : FactKey} {column : ℕ} (found : ownFact kind within line = some (key, column)) :
    ∃ value, line = factLine key column ++ value := by
  obtain ⟨candidate, -, hit⟩ := List.exists_of_findSome?_eq_some found
  split at hit
  · cases hit
  · split at hit
    · next starts =>
      cases hit
      obtain ⟨value, same⟩ := List.isPrefixOf_iff_prefix.1 starts
      exact ⟨value, same.symm⟩
    · cases hit

/-! ## Chunks -/

/-- A block of the receipt lies in a block of the fingerprint. -/
def Covers (own block : OpenBlock) : Prop :=
  ∀ column, own = some column → ∃ indent ≤ column, block = some indent

theorem covers_none (block : OpenBlock) : Covers none block := by
  intro column impossible
  cases impossible

theorem insideBlock_of_covers {own : OpenBlock} (covers : Covers own block) {line : List Char}
    (inside : insideBlock own line = true) : insideBlock block line = true := by
  unfold insideBlock at inside ⊢
  cases own with
  | none => cases inside
  | some column =>
    obtain ⟨indent, below, rfl⟩ := covers column rfl
    simp only [Option.elim_some, Bool.or_eq_true, decide_eq_true_eq] at inside ⊢
    exact inside.imp_right (lt_of_le_of_lt below)

theorem covers_blockAfter (block : OpenBlock) (key : FactKey) (column : ℕ) (value : List Char) :
    Covers (if key = .probeStdout then some column else none)
      (blockAfter block (factLine key column ++ value)) := by
  intro own opened
  rw [blockAfter_factLine]
  split at opened
  · next stdout =>
    cases opened
    cases block with
    | none => exact ⟨column, le_rfl, by simp [stdout]⟩
    | some indent =>
      by_cases inner : indent < column
      · exact ⟨indent, inner.le, by simp [inner]⟩
      · exact ⟨column, le_rfl, by simp [inner, stdout]⟩
  · cases opened

theorem keptLines_cons (block : OpenBlock) (line : List Char) (rest : List (List Char)) :
    keptLines block (line :: rest) =
      if leavesOut block line then keptLines (blockAfter block line) rest
      else line :: keptLines (blockAfter block line) rest := rfl

theorem keptLines_chunks (kind : EnumCompanionFileKind) (within : Bool) {own : OpenBlock}
    (covers : Covers own block) (lines : List EndedLine) :
    keptLines block ((chunks kind within own lines).map Chunk.line) =
      keptLines block (lines.map (·.line)) := by
  induction lines generalizing within own block with
  | nil => rfl
  | cons ended rest ih =>
    rw [List.map_cons, keptLines_cons]
    unfold chunks
    split
    · next inside =>
      -- below the key of an observed output
      have covered := insideBlock_of_covers covers inside
      have after : blockAfter block ended.line = block := by simp [blockAfter, covered]
      rw [ih within covers, after]
      simp [leavesOut, covered]
    · split
      · next key column found =>
        obtain ⟨value, same⟩ := ownFact_eq_some found
        have blank := List.append_nil (factLine key column)
        have dropped : ∀ text, leavesOut block (factLine key column ++ text) = true := by
          intro text
          simp [leavesOut, keepsLine_factLine]
        have bare := dropped []
        rw [blank] at bare
        have after : blockAfter block (factLine key column) = blockAfter block ended.line := by
          rw [same, blockAfter_factLine, ← blockAfter_factLine block key column [], blank]
        rw [List.map_cons, keptLines_cons]
        simp only [Chunk.line, bare, same, dropped value, if_true]
        rw [← same, after]
        refine ih _ ?_
        rw [same]
        exact covers_blockAfter block key column value
      · rw [List.map_cons, keptLines_cons]
        simp only [Chunk.line, ih _ (covers_none _)]

theorem chunks_eq_iff (block : OpenBlock) (first second : List Chunk) :
    keptLines block (first.map Chunk.line) = keptLines block (second.map Chunk.line) ∧
        places block first = places block second ↔ first = second := by
  refine ⟨?_, fun same => by rw [same]; exact ⟨rfl, rfl⟩⟩
  rintro ⟨lines, spots⟩
  induction first generalizing block second with
  | nil =>
    cases second with
    | nil => rfl
    | cons other others => cases spots
  | cons chunk rest ih =>
    cases second with
    | nil => cases spots
    | cons other others =>
      obtain ⟨spot, later⟩ := List.cons.inj spots
      rw [List.map_cons, List.map_cons, keptLines_cons, keptLines_cons] at lines
      cases dropped : leavesOut block chunk.line with
      | true =>
        cases dropped' : leavesOut block other.line with
        | true =>
          simp only [dropped, dropped', if_true] at lines spot
          cases spot
          rw [ih _ others lines later]
        | false =>
          simp only [dropped, dropped', if_true, Bool.false_eq_true, if_false] at spot
          cases spot
      | false =>
        cases dropped' : leavesOut block other.line with
        | true =>
          simp only [dropped, dropped', if_true, Bool.false_eq_true, if_false] at spot
          cases spot
        | false =>
          simp only [dropped, dropped', Bool.false_eq_true, if_false] at lines spot
          obtain ⟨same, kept⟩ := List.cons.inj lines
          rw [same] at kept later
          -- a line that is kept is no fact
          have whole : ∀ (one : Chunk), leavesOut block one.line = false →
              one = .text ⟨one.line, one.ending⟩ := by
            rintro (⟨key, column, ending⟩ | ended) stays
            · have dropped_fact := keepsLine_factLine key column []
              rw [List.append_nil] at dropped_fact
              simp [Chunk.line, leavesOut, dropped_fact] at stays
            · rfl
          have ends : chunk.ending = other.ending := Place.kept.inj spot
          rw [ih _ others kept later, whole chunk dropped, whole other dropped', same, ends]

/-! ## Files -/

def SameContent (observed planned : ModelCompanionFile) : Prop :=
  fileChunks observed = fileChunks planned

instance (observed planned : ModelCompanionFile) : Decidable (SameContent observed planned) :=
  inferInstanceAs (Decidable (_ = _))

theorem keptLines_fileChunks (file : ModelCompanionFile) :
    keptLines none ((fileChunks file).map Chunk.line) =
      keptLines none (splitLines file.content.toList) := by
  unfold fileChunks
  rw [keptLines_chunks file.kind false (covers_none none), map_line_splitEnds]

theorem mem_keptLines {lines : List (List Char)} {line : List Char}
    (listed : line ∈ keptLines block lines) : line ∈ lines := by
  induction lines generalizing block with
  | nil => cases listed
  | cons head rest ih =>
    rw [keptLines_cons] at listed
    split at listed
    · exact List.mem_cons_of_mem _ (ih listed)
    · rcases List.mem_cons.1 listed with rfl | later
      · exact List.mem_cons_self
      · exact List.mem_cons_of_mem _ (ih later)

theorem newline_not_mem_keptLines {text line : List Char}
    (listed : line ∈ keptLines none (splitLines text)) : '\n' ∉ line := by
  have among := mem_keptLines listed
  rw [← map_line_splitEnds] at among
  obtain ⟨ended, split, rfl⟩ := List.mem_map.1 among
  exact newline_not_mem_line split

theorem keptLines_eq_nil_iff (block : OpenBlock) (texts : List Chunk) :
    keptLines block (texts.map Chunk.line) = [] ↔
      ∀ place ∈ places block texts, ∃ chunk, place = .left chunk := by
  induction texts generalizing block with
  | nil => simp [keptLines, places]
  | cons chunk rest ih =>
    rw [List.map_cons, keptLines_cons]
    unfold places
    cases dropped : leavesOut block chunk.line with
    | true => simp [ih]
    | false => simp

theorem sameContent_iff (observed planned : ModelCompanionFile) :
    SameContent observed planned ↔
      stripObservedFacts observed.content = stripObservedFacts planned.content ∧
        filePlaces observed = filePlaces planned := by
  unfold SameContent stripObservedFacts
  rw [← keptLines_fileChunks, ← keptLines_fileChunks]
  constructor
  · intro same
    unfold filePlaces
    rw [same]
    exact ⟨rfl, rfl⟩
  · rintro ⟨texts, spots⟩
    refine (chunks_eq_iff none _ _).1 ⟨?_, spots⟩
    have plain : ∀ file : ModelCompanionFile, ∀ line ∈
        keptLines none ((fileChunks file).map Chunk.line), '\n' ∉ line := by
      intro file line listed
      rw [keptLines_fileChunks] at listed
      exact newline_not_mem_keptLines listed
    refine intercalate_inj List.not_mem_nil (plain observed) (plain planned) ?_ texts
    unfold filePlaces at spots
    rw [keptLines_eq_nil_iff, keptLines_eq_nil_iff, spots]

theorem chunks_contract (within : Bool) (lines : List EndedLine) :
    chunks .contract within none lines = lines.map .text := by
  induction lines generalizing within with
  | nil => rfl
  | cons ended rest ih =>
    have outside : insideBlock none ended.line = false := rfl
    have plain : ownFact .contract within ended.line = none := by simp [ownFact, factColumn]
    unfold chunks
    simp only [outside, plain, Bool.false_eq_true, if_false, ih, List.map_cons]

theorem sameContent_contract {observed planned : ModelCompanionFile}
    (contract : observed.kind = .contract) (contract' : planned.kind = .contract) :
    SameContent observed planned ↔ observed.content = planned.content := by
  unfold SameContent fileChunks
  rw [contract, contract', chunks_contract, chunks_contract]
  constructor
  · intro same
    have lines := (List.map_injective_iff.2 fun _ _ => Chunk.text.inj) same
    exact String.toList_inj.1 (splitEnds_inj lines)
  · rintro same
    rw [same]

end OmniMarket.OccCompanion
