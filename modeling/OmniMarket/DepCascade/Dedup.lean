import Mathlib.Data.List.Lex
import Mathlib.Data.List.Sort
import Mathlib.Data.Prod.Lex
import Mathlib.Data.String.Basic
import Mathlib.Data.Sum.Order
import OmniMarket.Lib.OrderedDict
import OmniMarket.Lib.PyValue
import OmniMarket.Lib.Regex

/-!
# Closing superseded dependency bumps

`HandlerDepCascadeDedupOrchestrator.handle` groups the open dependency PRs by repository and
package, keeps one PR of a group and closes the others. The listing of PRs is the adapter's; the
calls of `close_pr` are the log of a run.
-/

namespace OmniMarket.DepCascade

open Regex

/-- What `int()` raises. -/
inductive IntError where
  | typeError
  | valueError
  | overflowError

structure DedupEnv where
  unicode : UnicodeTable
  /-- `str.isdigit()` of one character. -/
  isDigit : Char → Bool
  /-- `str(value)`. -/
  strOf : PyValue → String
  /-- `int(value)`. -/
  intOf : PyValue → Except IntError ℤ

/-! ## Requests and results -/

structure ModelDepCascadeDedupRequest where
  repos : List String := []
  dependencyType : String := ""
  label : String := "dependencies"
  dryRun : Bool := false
  closeComment : String := ""

/-- The reading half of the adapter: `list_repos` and `list_dependency_prs`. -/
structure GithubAdapter where
  listRepos : List String
  listDependencyPrs : (repo label dependencyType : String) → List PyDict

inductive EnumPRAction where
  | closed
  | kept
  | skipped
deriving DecidableEq

structure ModelPRRecord where
  repo : String
  prNumber : ℤ
  package : String
  targetVersion : String := ""
  action : EnumPRAction
  supersededBy : ℤ := 0
  reason : String := ""

structure ModelPackageGroup where
  repo : String
  package : String
  keeperPrNumber : ℤ := 0
  supersededPrNumbers : List ℤ := []

structure ModelDepCascadeDedupResult where
  reposScanned : ℕ := 0
  groupsFound : ℕ := 0
  prsClosed : ℕ := 0
  prsKept : ℕ := 0
  prsSkipped : ℕ := 0
  dryRun : Bool := false
  packageGroups : List ModelPackageGroup := []
  prRecords : List ModelPRRecord := []

/-- `_DependencyPR`, as `_parse_pr` lets it through. -/
structure DependencyPR where
  repo : String
  number : ℤ
  package : NonEmptyString
  targetVersion : NonEmptyString
  alreadyOnMain : Bool
  positive : 0 < number

/-! ## Reading a PR -/

/-- `[A-Za-z0-9]` and some more characters. -/
def wordOf (others : String) : CharSet :=
  CharSet.either CharSet.letter (CharSet.either (CharSet.within '0' '9') (CharSet.anyOf others))

/-- `_BUMP_RE`. -/
def bumpPattern : Pattern :=
  let space := Pattern.one false CharSet.space
  .sequence
    [.alt (.literal true "bump") (.literal true "update"), .plus space,
     .group (.plus (.one true (wordOf "_.@/-"))),
     .star false (.one false (CharSet.except (CharSet.single '\n'))), space,
     .alt (.literal true "to")
       (.sequence [.literal true "from", .plus space,
         .plus (.one false (CharSet.except CharSet.space)), .plus space, .literal true "to"]),
     .plus space, .optional (.literal true "v"), .group (.plus (.one true (wordOf "_.+-")))]

/-- `first or second`. -/
def pyOr (first second : PyValue) : PyValue := if first.truthy then first else second

variable (env : DedupEnv)

/-- `int(raw.get("number", 0) or 0)`. -/
def readNumber (raw : PyDict) : Except IntError ℤ :=
  env.intOf (pyOr ((raw.get? "number").getD (.int 0)) (.int 0))

def parsePr (repo : String) (raw : PyDict) : Except IntError (Option DependencyPR) := do
  let title := env.strOf (pyOr (raw.get "title") (.str ""))
  let package := env.strOf (pyOr (raw.get "package") (.str ""))
  let targetVersion :=
    env.strOf (pyOr (pyOr (raw.get "target_version") (raw.get "targetVersion")) (.str ""))
  let found :=
    if package = "" ∨ targetVersion = "" then
      (bumpPattern.findGroups env.unicode title.toList).head?
    else none
  let captured (index : ℕ) : String :=
    String.ofList ((found.bind fun groups => groups[index]?).getD [])
  let number ← readNumber env raw
  match NonEmptyString.validate? (if package = "" then captured 0 else package),
      NonEmptyString.validate? (if targetVersion = "" then captured 1 else targetVersion) with
  | some package, some targetVersion =>
    if positive : 0 < number then
      return some
        { repo, number, package, targetVersion, positive
          alreadyOnMain := (pyOr (raw.get "already_on_main") (raw.get "alreadyOnMain")).truthy }
    else return none
  | _, _ => return none

/-! ## Version keys -/

/-- `[0-9]`. -/
def asciiDigit (c : Char) : Bool := decide ('0' ≤ c ∧ c ≤ '9')

/-- `re.split(r"([0-9]+)", version)`: the texts before, between and after the runs of digits, with
the runs between them. -/
def splitVersion : List Char → List (List Char)
  | [] => [[]]
  | c :: rest =>
    match splitVersion rest with
    | [] => [[c]]
    | part :: parts =>
      if !asciiDigit c then (c :: part) :: parts
      else
        match part, parts with
        | [], run :: later => [] :: (c :: run) :: later
        | _, _ => [] :: [c] :: part :: parts

/-- The digits that `int()` converts at most. -/
def maxStrDigits : ℕ := 4300

/-- `int(part)` of a part that `isdigit()`. -/
def intOfPart (part : List Char) : Except IntError ℕ :=
  if part.all env.unicode.isDecimal ∧ part.length ≤ maxStrDigits then
    .ok (part.foldl (fun value c => 10 * value + env.unicode.decimalValue c) 0)
  else .error .valueError

/-- A number comes before every text. -/
abbrev VersionPart := ℕ ⊕ₗ String

def versionPart (part : List Char) : Except IntError VersionPart :=
  if !part.isEmpty && part.all env.isDigit then
    (intOfPart env part).map fun number => toLex (.inl number)
  else .ok (toLex (.inr (String.ofList part)))

def versionKey (version : String) : Except IntError (List VersionPart) :=
  (splitVersion version.toList).mapM (versionPart env)

/-! ## The keeper of a group -/

def keyedScore (keyed : List VersionPart × DependencyPR) : List VersionPart ×ₗ ℤ :=
  toLex (keyed.1, keyed.2.number)

/-- `max`, which keeps the first of equals. -/
def firstMax : List (List VersionPart × DependencyPR) → Except IntError DependencyPR
  | [] => .error .valueError
  | first :: rest =>
    .ok (rest.foldl (fun best keyed =>
      if keyedScore best < keyedScore keyed then keyed else best) first).2

def keeper (prs : List DependencyPR) : Except IntError DependencyPR := do
  let keyed ← prs.mapM fun pr => do
    let key ← versionKey env pr.targetVersion.value
    return (key, pr)
  firstMax keyed

/-! ## One group -/

/-- `_record`. -/
def recordOf (pr : DependencyPR) (action : EnumPRAction) (supersededBy : ℤ) (reason : String) :
    ModelPRRecord :=
  { repo := pr.repo
    prNumber := pr.number
    package := pr.package.value
    targetVersion := pr.targetVersion.value
    action := action
    supersededBy := supersededBy
    reason := reason }

section

variable (request : ModelDepCascadeDedupRequest)

def closeComment (pr : DependencyPR) (keeper : Option DependencyPR) : String :=
  if request.closeComment ≠ "" then request.closeComment
  else
    match keeper with
    | none =>
      "Superseded because " ++ pr.package.value ++ "@" ++ pr.targetVersion.value ++
        " is already on main. Closed by dep-cascade-dedup [OMN-6740]."
    | some keeper =>
      "Superseded by #" ++ toString keeper.number ++ " targeting " ++ keeper.package.value ++
        "@" ++ keeper.targetVersion.value ++ ". Closed by dep-cascade-dedup [OMN-6740]."

/-- A call of `close_pr`. -/
structure ClosedPr where
  pr : DependencyPR
  comment : String

/-- What the turn of the loop for one group adds. -/
structure GroupOutcome where
  records : List ModelPRRecord := []
  closes : List ClosedPr := []
  kept : ℕ := 0
  group : Option ModelPackageGroup := none

def supersededBy (keeper : Option DependencyPR) (prs : List DependencyPR) : List DependencyPR :=
  prs.filter fun pr => keeper.all fun keeper => decide (pr.number ≠ keeper.number)

def supersededRecord (keeper : Option DependencyPR) (pr : DependencyPR) : ModelPRRecord :=
  let reason := keeper.elim "already on main" fun keeper =>
    "superseded by #" ++ toString keeper.number
  recordOf pr (if request.dryRun then .skipped else .closed)
    (keeper.elim 0 DependencyPR.number) (if request.dryRun then "dry run: " ++ reason else reason)

/-- A group of which a keeper, or none, stays open. -/
def resolvedGroup (repo package : String) (prs : List DependencyPR) (keeper : Option DependencyPR) :
    GroupOutcome :=
  let superseded := supersededBy keeper prs
  { records :=
      (keeper.map fun keeper => recordOf keeper .kept 0 "highest target version").toList ++
        superseded.map (supersededRecord request keeper)
    closes :=
      if request.dryRun then []
      else superseded.map fun pr => { pr, comment := closeComment request pr keeper }
    kept := if keeper.isSome then 1 else 0
    group := some
      { repo, package
        keeperPrNumber := keeper.elim 0 DependencyPR.number
        supersededPrNumbers := superseded.map DependencyPR.number } }

def handleGroup (repo package : String) (prs : List DependencyPR) : Except IntError GroupOutcome :=
  match prs, prs.any DependencyPR.alreadyOnMain with
  | [pr], false => .ok { records := [recordOf pr .kept 0 "only open bump"], kept := 1 }
  | prs, true => .ok (resolvedGroup request repo package prs none)
  | prs, false => (keeper env prs).map fun keeper =>
    resolvedGroup request repo package prs (some keeper)

end

/-! ## A run -/

/-- What the first loop makes of a listed PR. -/
inductive Listing where
  /-- No package or version can be read, or the number is not positive. -/
  | unparsed (repo : String) (number : ℤ)
  | bump (pr : DependencyPR)

/-- One turn of the first loop. -/
def readListing (repo : String) (raw : PyDict) : Except IntError Listing := do
  match ← parsePr env repo raw with
  | some pr => return .bump pr
  | none =>
    let number ← readNumber env raw
    return .unparsed repo number

section

variable (adapter : GithubAdapter)

section

variable (request : ModelDepCascadeDedupRequest)

def scannedRepos : List String :=
  if request.repos.isEmpty then adapter.listRepos else request.repos

def listedPrs :
    List (String × PyDict) :=
  (scannedRepos adapter request).flatMap fun repo =>
    (adapter.listDependencyPrs repo request.label request.dependencyType).map fun raw => (repo, raw)

def Listing.bump? : Listing → Option DependencyPR
  | .bump pr => some pr
  | .unparsed _ _ => none

def Listing.skipRecord? : Listing → Option ModelPRRecord
  | .bump _ => none
  | .unparsed repo number => some
      { repo := repo
        prNumber := number
        package := ""
        action := .skipped
        reason := "could not parse dependency package/version" }

/-- The key of a PR in `grouped`. -/
def DependencyPR.groupKey (pr : DependencyPR) : String × String := (pr.repo, pr.package.value)

/-- `sorted(grouped.items())`; no two keys are equal. -/
def sortedGroups (prs : List DependencyPR) : List ((String × String) × List DependencyPR) :=
  (OrderedDict.groupBy DependencyPR.groupKey prs).entries.insertionSort fun first second =>
    toLex first.1 ≤ toLex second.1

def runGroups (request : ModelDepCascadeDedupRequest) :
    List ((String × String) × List DependencyPR) → List GroupOutcome × Option IntError
  | [] => ([], none)
  | ((repo, package), prs) :: rest =>
    match handleGroup env request repo package prs with
    | .error raised => ([], some raised)
    | .ok outcome =>
      let later := runGroups request rest
      (outcome :: later.1, later.2)

def resultOf (listings : List Listing) (outcomes : List GroupOutcome) :
    ModelDepCascadeDedupResult :=
  let records := listings.filterMap Listing.skipRecord? ++ outcomes.flatMap GroupOutcome.records
  let groups := outcomes.filterMap GroupOutcome.group
  { reposScanned := (scannedRepos adapter request).length
    groupsFound := groups.length
    prsClosed := (outcomes.flatMap GroupOutcome.closes).length
    prsKept := (outcomes.map GroupOutcome.kept).sum
    prsSkipped := records.countP fun record => record.action = .skipped
    dryRun := request.dryRun
    packageGroups := groups
    prRecords := records.insertionSort fun first second =>
      toLex (first.repo, toLex (first.package, first.prNumber)) ≤
        toLex (second.repo, toLex (second.package, second.prNumber)) }

/-- The calls of `close_pr`, and what `handle` returns or raises. -/
structure Run where
  closes : List ClosedPr
  result : Except IntError ModelDepCascadeDedupResult

def handle : Run :=
  match (listedPrs adapter request).mapM fun listed => readListing env listed.1 listed.2 with
  | .error raised => { closes := [], result := .error raised }
  | .ok listings =>
    let (outcomes, raised) :=
      runGroups env request (sortedGroups (listings.filterMap Listing.bump?))
    { closes := outcomes.flatMap GroupOutcome.closes
      result := raised.elim (.ok (resultOf adapter request listings outcomes)) .error }

end

end

end OmniMarket.DepCascade
