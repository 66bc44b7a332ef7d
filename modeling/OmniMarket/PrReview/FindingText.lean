import OmniMarket.Lib.RegexSearch
import OmniMarket.PrReview.Response
import OmniMarket.ProjectionDatabase.Adapters
import Mathlib

/-!
# The JSON text of findings

What a reviewer writes: a list of objects with texts in their fields, as `json.dumps` prints it.
-/

namespace OmniMarket.PrReview

open Regex Regex.Pattern ProjectionDatabase

/-! ## Findings and their texts -/

structure FindingObject where
  fields : List (String × String)
  distinct : (fields.map Prod.fst).Nodup
  described : ∃ description, fields.lookup "description" = some description ∧
    PyText.stripString description ≠ ""

def FindingObject.raw (finding : FindingObject) : PyDict :=
  finding.fields.map fun field => (field.1, .str field.2)

def FindingObject.value (finding : FindingObject) : PyValue := .dict finding.raw

section

variable (findings : List FindingObject)

def findingsValue : PyValue :=
  .list (findings.map FindingObject.value)

def dumpsText (text : String) : List Char := '"' :: (text.toList.flatMap escapeAscii ++ ['"'])

def dumpsField (field : String × String) : List Char :=
  dumpsText field.1 ++ ([':', ' '] ++ dumpsText field.2)

def dumpsObject (finding : FindingObject) : List Char :=
  '\x7b' :: ([',', ' '].intercalate (finding.fields.map dumpsField) ++ ['\x7d'])

/-- `json.dumps(findings)`. -/
def dumpsFindings : List Char :=
  '[' :: ([',', ' '].intercalate (findings.map dumpsObject) ++ [']'])

/-- The object with the list under `findings`. -/
def wrappedValue : PyValue :=
  .dict [("findings", findingsValue findings)]

def dumpsWrapped : List Char :=
  '\x7b' :: (dumpsText "findings" ++ ([':', ' '] ++ (dumpsFindings findings ++ ['\x7d'])))

/-! ## Brackets inside texts -/

/-- Inside a text, the scan passes over it. -/
def Quoted (text : List Char) : Prop :=
  ∀ depth rest, closedBracket depth true false (text ++ rest) =
    (closedBracket depth true false rest).map (text ++ ·)

/-- Outside of texts, the scan passes over it and the depth stays. -/
def Inert (text : List Char) : Prop :=
  ∀ depth rest, closedBracket depth false false (text ++ rest) =
    (closedBracket depth false false rest).map (text ++ ·)

theorem Quoted.nil : Quoted [] := fun depth rest => by
  simp

theorem Quoted.append {first second : List Char} (quoted : Quoted first)
    (quoted' : Quoted second) : Quoted (first ++ second) := by
  intro depth rest
  rw [List.append_assoc, quoted, quoted', Option.map_map]
  simp [Function.comp_def]

theorem Inert.nil : Inert [] := fun depth rest => by
  simp

theorem Inert.append {first second : List Char} (inert : Inert first) (inert' : Inert second) :
    Inert (first ++ second) := by
  intro depth rest
  rw [List.append_assoc, inert, inert', Option.map_map]
  simp [Function.comp_def]

theorem Quoted.plain {c : Char} (noQuote : c ≠ '"') (noBackslash : c ≠ '\\') : Quoted [c] := by
  intro depth rest
  simp [closedBracket, noQuote, noBackslash]

theorem Quoted.escaped (c : Char) : Quoted ['\\', c] := by
  intro depth rest
  simp [closedBracket, Function.comp_def]

theorem Inert.plain {c : Char} (noQuote : c ≠ '"') (noOpen : c ≠ '[') (noClose : c ≠ ']') :
    Inert [c] := by
  intro depth rest
  simp [closedBracket, noQuote, noOpen, noClose]

theorem quoted_of_forall {text : List Char} (plain : ∀ c ∈ text, c ≠ '"' ∧ c ≠ '\\') :
    Quoted text := by
  induction text with
  | nil => exact Quoted.nil
  | cons c text ih =>
    rw [List.forall_mem_cons] at plain
    exact (Quoted.plain plain.1.1 plain.1.2).append (ih plain.2)

theorem quoted_unicodeEscape (code : ℕ) : Quoted (unicodeEscape code) := by
  have digits : ∀ c ∈ [code / 4096 % 16, code / 256 % 16, code / 16 % 16, code % 16].map
      Nat.digitChar, c ≠ '"' ∧ c ≠ '\\' := by
    intro c listed
    obtain ⟨digit, -, rfl⟩ := List.mem_map.1 listed
    simp
  exact (Quoted.escaped 'u').append (quoted_of_forall digits)

theorem quoted_escapeChar (c : Char) : Quoted (Json.escapeChar c) := by
  unfold Json.escapeChar
  split_ifs with quote backslash
  · exact Quoted.escaped '"'
  · exact Quoted.escaped '\\'
  · exact Quoted.escaped 'n'
  · exact Quoted.escaped 'r'
  · exact Quoted.escaped 't'
  · exact Quoted.escaped 'b'
  · exact Quoted.escaped 'f'
  · have digits : ∀ d ∈ ['0', '0', Nat.digitChar (c.toNat / 16), Nat.digitChar (c.toNat % 16)],
        d ≠ '"' ∧ d ≠ '\\' := by simp
    exact (Quoted.escaped 'u').append (quoted_of_forall digits)
  · exact Quoted.plain quote backslash

theorem quoted_escapeAscii (c : Char) : Quoted (escapeAscii c) := by
  unfold escapeAscii
  split_ifs
  · exact quoted_escapeChar c
  · exact quoted_unicodeEscape c.toNat
  · exact (quoted_unicodeEscape _).append (quoted_unicodeEscape _)

theorem quoted_escaped (text : List Char) : Quoted (text.flatMap escapeAscii) := by
  induction text with
  | nil => exact Quoted.nil
  | cons c text ih => exact (quoted_escapeAscii c).append ih

theorem inert_dumpsText (text : String) : Inert (dumpsText text) := by
  intro depth rest
  have opened : closedBracket depth false false (dumpsText text ++ rest) =
      (closedBracket depth true false
        (text.toList.flatMap escapeAscii ++ '"' :: rest)).map ('"' :: ·) := by
    simp [dumpsText, closedBracket]
  have closed : closedBracket depth true false ('"' :: rest) =
      (closedBracket depth false false rest).map ('"' :: ·) := by
    simp [closedBracket]
  rw [opened, quoted_escaped, closed, Option.map_map, Option.map_map]
  simp [dumpsText, Function.comp_def]

theorem inert_intercalate {texts : List (List Char)} (inert : ∀ text ∈ texts, Inert text) :
    Inert ([',', ' '].intercalate texts) := by
  have comma : Inert [',', ' '] :=
    (Inert.plain (by decide) (by decide) (by decide) : Inert [',']).append
      (Inert.plain (by decide) (by decide) (by decide))
  induction texts with
  | nil => exact Inert.nil
  | cons text texts ih =>
    rw [List.forall_mem_cons] at inert
    cases texts with
    | nil => simpa using inert.1
    | cons next texts =>
      rw [List.intercalate_cons_cons, List.append_assoc]
      exact inert.1.append (comma.append (ih inert.2))

theorem inert_dumpsField (field : String × String) : Inert (dumpsField field) := by
  have colon : Inert [':', ' '] :=
    (Inert.plain (by decide) (by decide) (by decide) : Inert [':']).append
      (Inert.plain (by decide) (by decide) (by decide))
  exact (inert_dumpsText field.1).append (colon.append (inert_dumpsText field.2))

theorem inert_dumpsObject (finding : FindingObject) : Inert (dumpsObject finding) := by
  have fields : Inert ([',', ' '].intercalate (finding.fields.map dumpsField)) := by
    refine inert_intercalate fun text listed => ?_
    obtain ⟨field, -, rfl⟩ := List.mem_map.1 listed
    exact inert_dumpsField field
  have opened : Inert ['\x7b'] := Inert.plain (by decide) (by decide) (by decide)
  have closed : Inert ['\x7d'] := Inert.plain (by decide) (by decide) (by decide)
  exact opened.append (fields.append closed)

theorem closedBracket_dumps (after : List Char) :
    closedBracket 0 false false (dumpsFindings findings ++ after) =
      some (dumpsFindings findings) := by
  have objects : Inert ([',', ' '].intercalate (findings.map dumpsObject)) := by
    refine inert_intercalate fun text listed => ?_
    obtain ⟨finding, -, rfl⟩ := List.mem_map.1 listed
    exact inert_dumpsObject finding
  have opened : closedBracket 0 false false (dumpsFindings findings ++ after) =
      (closedBracket 1 false false ([',', ' '].intercalate (findings.map dumpsObject) ++
        ']' :: after)).map ('[' :: ·) := by
    simp [dumpsFindings, closedBracket]
  have closed : closedBracket 1 false false (']' :: after) = some [']'] := by
    simp [closedBracket]
  rw [opened, objects, closed]
  rfl

/-! ## Stripping and fences -/

theorem strip_visible {own : List Char} (some_text : own ≠ [])
    (first : ∀ c ∈ own.head?, PyText.isSpace c = false)
    (last : ∀ c ∈ own.getLast?, PyText.isSpace c = false) : PyText.strip own = own := by
  obtain ⟨lead, trail, within, within', same⟩ := PyText.strip_around some_text first last [] []
  rw [List.suffix_nil] at within
  rw [List.prefix_nil] at within'
  simpa [within, within'] using same

theorem dumpsFindings_ne_nil : dumpsFindings findings ≠ [] :=
  List.cons_ne_nil _ _

theorem getLast_dumpsFindings : (dumpsFindings findings).getLast? = some ']' := by
  rw [dumpsFindings, ← List.cons_append, List.getLast?_concat]

theorem getLast_dumpsWrapped : (dumpsWrapped findings).getLast? = some '\x7d' := by
  have same : dumpsWrapped findings = ('\x7b' :: (dumpsText "findings" ++
      ([':', ' '] ++ dumpsFindings findings))) ++ ['\x7d'] := by
    simp [dumpsWrapped]
  rw [same, List.getLast?_concat]

theorem visible_first : ∀ c ∈ (dumpsFindings findings).head?, PyText.isSpace c = false := by
  rintro c ⟨⟩
  decide

theorem visible_last : ∀ c ∈ (dumpsFindings findings).getLast?, PyText.isSpace c = false := by
  rw [getLast_dumpsFindings]
  rintro c ⟨⟩
  decide

theorem strip_dumpsFindings :
    PyText.strip (dumpsFindings findings) = dumpsFindings findings :=
  strip_visible (dumpsFindings_ne_nil findings) (visible_first findings) (visible_last findings)

theorem strip_dumpsWrapped : PyText.strip (dumpsWrapped findings) = dumpsWrapped findings := by
  refine strip_visible (List.cons_ne_nil _ _) ?_ ?_
  · rintro c ⟨⟩
    decide
  · rw [getLast_dumpsWrapped]
    rintro c ⟨⟩
    decide

end

def fenceEnd : Pattern :=
  sequence [optional lineFeed, star true (one false CharSet.space), literal false "```"]

theorem no_fence_within {own part gap rest after : List Char} (ends : own.getLast? = some ']')
    (noFence : ¬ "```".toList <:+: own) (some_text : part ≠ []) (within : part <:+ own)
    (spaces : ∀ c ∈ gap, PyText.isSpace c = true) :
    part ++ rest ≠ gap ++ ("```".toList ++ after) := by
  intro same
  have last : ∀ {lead trail : List Char}, part = lead ++ trail → trail ≠ [] →
      trail.getLast? = some ']' := by
    intro lead trail split some_trail
    obtain ⟨front, rfl⟩ := within
    rw [List.getLast?_append_of_ne_nil front some_text, split,
      List.getLast?_append_of_ne_nil lead some_trail] at ends
    exact ends
  have bracket_not_in_gap : ']' ∉ gap := fun listed => by
    have space := spaces ']' listed
    cases space
  rcases List.append_eq_append_iff.1 same with ⟨more, passed, -⟩ | ⟨left, split, fence⟩
  · -- The white space would reach to the end of the text.
    have listed : ']' ∈ part := List.mem_of_getLast? (last (List.nil_append part).symm some_text)
    exact bracket_not_in_gap (by rw [passed]; exact List.mem_append_left more listed)
  · by_cases none_left : left = []
    · rw [none_left, List.append_nil] at split
      have listed : ']' ∈ part := List.mem_of_getLast? (last (List.nil_append part).symm some_text)
      exact bracket_not_in_gap (split ▸ listed)
    · have ended := last split none_left
      rcases List.append_eq_append_iff.1 fence with ⟨more, longer, -⟩ | ⟨more, cut, -⟩
      · -- The fence stands inside the text.
        have inside : "```".toList <:+: part :=
          ⟨gap, more, by rw [List.append_assoc, ← longer, ← split]⟩
        exact noFence (inside.trans within.isInfix)
      · -- A backtick would end the text.
        have listed : ']' ∈ "```".toList := by
          rw [cut]
          exact List.mem_append_left more (List.mem_of_getLast? ended)
        simp at listed

theorem prefers_fenceEnd {unicode : UnicodeTable} (before : Option Char)
    (groups : List (List Char)) :
    ∃ final, Prefers unicode fenceEnd ⟨before, "\n```".toList, groups⟩ ⟨final, [], groups⟩ := by
  obtain ⟨final, closed⟩ : ∃ final, Prefers unicode (literal false "```")
      ⟨some '\n', "```".toList ++ [], groups⟩ ⟨final, [], groups⟩ :=
    prefers_literal "```" [] (some '\n') groups
  have noSpace : ∀ c ∈ "```".toList.head?, CharSet.space unicode c = false := by
    rintro c ⟨⟩
    rfl
  have stays : Prefers unicode (star true (one false CharSet.space))
      ⟨some '\n', "```".toList, groups⟩ ⟨some '\n', "```".toList, groups⟩ :=
    ⟨[], run_star_stops noSpace⟩
  have newline : Prefers unicode (optional lineFeed) ⟨before, "\n```".toList, groups⟩
      ⟨some '\n', "```".toList, groups⟩ := prefers_optional_one rfl
  exact ⟨final, newline.seq (stays.seq (closed.seq prefers_empty))⟩

theorem fence_match {unicode : UnicodeTable} {findings : List FindingObject}
    (noFence : ¬ "```".toList <:+: dumpsFindings findings) : (FENCE_RE.findGroups unicode
        ("```json\n".toList ++ (dumpsFindings findings ++ "\n```".toList))).head? =
      some [dumpsFindings findings] := by
  have fails : ∀ part, part ≠ [] → part <:+ dumpsFindings findings → ∀ last groups,
      fenceEnd.run unicode ⟨last, part ++ "\n```".toList, groups⟩ = [] := by
    intro part some_text within last groups
    refine List.eq_nil_iff_forall_not_mem.2 fun later reached => ?_
    obtain ⟨gap, spaces, same⟩ := mem_run_gap rfl reached
    exact no_fence_within (getLast_dumpsFindings findings) noFence some_text within spaces same
  let inner : List Char := dumpsFindings findings ++ "\n```".toList
  obtain ⟨opened, fence⟩ : ∃ opened, Prefers unicode (literal false "```")
      ⟨none, "```".toList ++ ("json\n".toList ++ inner), []⟩
      ⟨opened, "json\n".toList ++ inner, []⟩ := prefers_literal _ _ _ _
  obtain ⟨named, json⟩ : ∃ named, Prefers unicode (literal false "json")
      ⟨opened, "json".toList ++ ("\n".toList ++ inner), []⟩ ⟨named, "\n".toList ++ inner, []⟩ :=
    prefers_literal _ _ _ _
  have noSpace : ∀ d ∈ inner.head?, CharSet.space unicode d = false := by
    rintro d ⟨⟩
    rfl
  have newline : Prefers unicode (star true (one false CharSet.space))
      ⟨named, "\n".toList ++ inner, []⟩ ⟨some '\n', inner, []⟩ := prefers_star_one rfl noSpace
  have stays : Prefers unicode (optional lineFeed) ⟨some '\n', inner, []⟩ ⟨some '\n', inner, []⟩ :=
    prefers_optional_stops rfl
  obtain ⟨final, inside⟩ : ∃ final, Prefers unicode (.seq (group (star false
      (one false CharSet.any))) fenceEnd) ⟨some '\n', dumpsFindings findings ++ "\n```".toList, []⟩
      ⟨final, [], [dumpsFindings findings]⟩ := lazy_group fails prefers_fenceEnd
  have whole : Prefers unicode FENCE_RE
      ⟨none, "```json\n".toList ++ inner, []⟩ ⟨final, [], [dumpsFindings findings]⟩ :=
    fence.seq (json.optional.seq (newline.seq (stays.seq inside)))
  exact findGroups_head whole.matchAt (by simp)

end OmniMarket.PrReview
