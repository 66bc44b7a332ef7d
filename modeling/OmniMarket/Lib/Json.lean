import OmniMarket.Lib.OrderedDict
import Mathlib

/-!
# Canonical JSON

JSON values without floating point numbers, and their text under
`json.dumps(v, sort_keys=True, separators=(",", ":"), ensure_ascii=False)`.

1. `write_append_inj`: the text of a value can be read off the front of a longer text, as soon
   as what follows is no digit.
2. `dumps_eq_iff`: two values have the same canonical text iff they are the same value, where
   the order of the entries of a dictionary does not matter.
3. `printable_dumps`: the text has no control characters.
4. `records_inj`: texts without the separator can be told apart when each is followed by it.
-/

inductive Json where
  | null
  | bool (value : Bool)
  | int (value : ℤ)
  | str (value : String)
  | list (items : List Json)
  | dict (entries : List (String × Json))

namespace Json

/-! ## Values -/

mutual

/-- Every dictionary of the value has distinct keys. -/
def distinct : Json → Bool
  | .list items => distinctItems items
  | .dict entries => decide (entries.map Prod.fst).Nodup && distinctEntries entries
  | _ => true

def distinctItems : List Json → Bool
  | [] => true
  | item :: rest => distinct item && distinctItems rest

def distinctEntries : List (String × Json) → Bool
  | [] => true
  | (_, value) :: rest => distinct value && distinctEntries rest

end

mutual

/-- Equality of values: dictionaries are compared by key, whatever their order. -/
def same : Json → Json → Bool
  | .null, .null => true
  | .bool a, .bool b => a == b
  | .int a, .int b => a == b
  | .str a, .str b => a == b
  | .list a, .list b => sameItems a b
  | .dict a, .dict b => a.length == b.length && sameEntries a b
  | _, _ => false

def sameItems : List Json → List Json → Bool
  | [], [] => true
  | a :: as, b :: bs => same a b && sameItems as bs
  | _, _ => false

def sameEntries : List (String × Json) → List (String × Json) → Bool
  | [], _ => true
  | (key, value) :: rest, other =>
    (match OrderedDict.lookupEntry key other with
      | some found => same value found
      | none => false) && sameEntries rest other

end

def byKey {ν : Type} (entries : List (String × ν)) : List (String × ν) :=
  entries.insertionSort fun a b => a.1 ≤ b.1

mutual

/-- `sort_keys=True`, at every level. -/
def sortKeys : Json → Json
  | .list items => .list (sortItems items)
  | .dict entries => .dict (byKey (sortEntries entries))
  | value => value

def sortItems : List Json → List Json
  | [] => []
  | item :: rest => sortKeys item :: sortItems rest

def sortEntries : List (String × Json) → List (String × Json)
  | [] => []
  | (key, value) :: rest => (key, sortKeys value) :: sortEntries rest

end

/-! ## Text -/

/-- A character of a string literal: the quote, the backslash and the control characters are
escaped. -/
def escapeChar (c : Char) : List Char :=
  if c = '"' then ['\\', '"']
  else if c = '\\' then ['\\', '\\']
  else if c = '\n' then ['\\', 'n']
  else if c = '\r' then ['\\', 'r']
  else if c = '\t' then ['\\', 't']
  else if c.toNat = 8 then ['\\', 'b']
  else if c.toNat = 12 then ['\\', 'f']
  else if c.toNat < 32 then
    ['\\', 'u', '0', '0', Nat.digitChar (c.toNat / 16), Nat.digitChar (c.toNat % 16)]
  else [c]

def quoted (text : String) : List Char :=
  '"' :: (text.toList.flatMap escapeChar ++ ['"'])

/-- An integer in decimal. -/
def intText : ℤ → List Char
  | .ofNat n => Nat.toDigits 10 n
  | .negSucc n => '-' :: Nat.toDigits 10 (n + 1)

mutual

def write : Json → List Char
  | .null => ['n', 'u', 'l', 'l']
  | .bool true => ['t', 'r', 'u', 'e']
  | .bool false => ['f', 'a', 'l', 's', 'e']
  | .int value => intText value
  | .str value => quoted value
  | .list items => '[' :: (writeItems items ++ [']'])
  | .dict entries => '\x7b' :: (writeEntries entries ++ ['\x7d'])

def writeItems : List Json → List Char
  | [] => []
  | item :: rest => write item ++ writeMoreItems rest

/-- Items after the first, each with the comma before it. -/
def writeMoreItems : List Json → List Char
  | [] => []
  | item :: rest => ',' :: (write item ++ writeMoreItems rest)

def writeEntries : List (String × Json) → List Char
  | [] => []
  | (key, value) :: rest => quoted key ++ (':' :: (write value ++ writeMoreEntries rest))

def writeMoreEntries : List (String × Json) → List Char
  | [] => []
  | (key, value) :: rest =>
    ',' :: (quoted key ++ (':' :: (write value ++ writeMoreEntries rest)))

end

/-- The canonical text. -/
def dumps (value : Json) : List Char := write (sortKeys value)

/-! ## Reading a text back -/

/-- The value of a hexadecimal digit below ten or from `a` to `f`. -/
def hexValue (c : Char) : ℕ := if c.toNat < 58 then c.toNat - 48 else c.toNat - 87

/-- The first character that stands in the body of a literal, with what follows it. -/
def readChar : List Char → Option (Char × List Char)
  | '\\' :: 'u' :: '0' :: '0' :: high :: low :: rest =>
    some (Char.ofNat (16 * hexValue high + hexValue low), rest)
  | '\\' :: 'n' :: rest => some ('\n', rest)
  | '\\' :: 'r' :: rest => some ('\r', rest)
  | '\\' :: 't' :: rest => some ('\t', rest)
  | '\\' :: 'b' :: rest => some (Char.ofNat 8, rest)
  | '\\' :: 'f' :: rest => some (Char.ofNat 12, rest)
  | '\\' :: c :: rest => some (c, rest)
  | '"' :: _ => none
  | c :: rest => some (c, rest)
  | [] => none

theorem readChar_control {n : ℕ} (small : n < 32) (rest : List Char) :
    readChar ('\\' :: 'u' :: '0' :: '0' :: Nat.digitChar (n / 16) :: Nat.digitChar (n % 16) ::
      rest) = some (Char.ofNat n, rest) := by
  have value : 16 * hexValue (Nat.digitChar (n / 16)) + hexValue (Nat.digitChar (n % 16)) = n := by
    have all : ∀ m < 32,
        16 * hexValue (Nat.digitChar (m / 16)) + hexValue (Nat.digitChar (m % 16)) = m := by
      decide
    exact all n small
  rw [readChar, value]

theorem readChar_escapeChar (c : Char) (rest : List Char) :
    readChar (escapeChar c ++ rest) = some (c, rest) := by
  unfold escapeChar
  split_ifs with quote backslash newline carriage tab backspace feed control
  · rw [quote]
    rfl
  · rw [backslash]
    rfl
  · rw [newline]
    rfl
  · rw [carriage]
    rfl
  · rw [tab]
    rfl
  · rw [← Char.ofNat_toNat c, backspace]
    rfl
  · rw [← Char.ofNat_toNat c, feed]
    rfl
  · have read := readChar_control control rest
    rw [Char.ofNat_toNat] at read
    exact read
  · rw [List.singleton_append]
    unfold readChar
    split <;> simp_all

theorem escaped_append_inj {a b rest rest' : List Char}
    (equal : a.flatMap escapeChar ++ '"' :: rest = b.flatMap escapeChar ++ '"' :: rest') :
    a = b ∧ rest = rest' := by
  have read := congrArg readChar equal
  induction a generalizing b with
  | nil =>
    cases b with
    | nil => exact ⟨rfl, (List.cons.inj equal).2⟩
    | cons d b =>
      rw [List.flatMap_cons, List.append_assoc, readChar_escapeChar] at read
      cases read
  | cons c a ih =>
    rw [List.flatMap_cons, List.append_assoc, readChar_escapeChar] at read
    cases b with
    | nil => cases read
    | cons d b =>
      rw [List.flatMap_cons, List.append_assoc, readChar_escapeChar] at read
      obtain ⟨rfl, tails⟩ := Prod.mk.inj (Option.some.inj read)
      obtain ⟨rfl, rests⟩ := ih tails (congrArg readChar tails)
      exact ⟨rfl, rests⟩

theorem quoted_append_inj {a b : String} {rest rest' : List Char}
    (equal : quoted a ++ rest = quoted b ++ rest') : a = b ∧ rest = rest' := by
  have bodies : a.toList.flatMap escapeChar ++ '"' :: rest =
      b.toList.flatMap escapeChar ++ '"' :: rest' := by
    simpa [quoted] using equal
  obtain ⟨texts, rests⟩ := escaped_append_inj bodies
  exact ⟨String.toList_inj.1 texts, rests⟩

/-- What follows a number in a text is no digit. -/
def Stops (rest : List Char) : Prop := ∀ c ∈ rest.head?, c.isDigit = false

theorem takeWhile_stop {p : Char → Bool} {text rest : List Char} (all : ∀ c ∈ text, p c)
    (stops : ∀ c ∈ rest.head?, p c = false) : (text ++ rest).takeWhile p = text := by
  rw [List.takeWhile_append_of_pos all]
  cases rest with
  | nil => simp
  | cons c rest =>
    have stop : p c = false := stops c rfl
    simp [stop]

theorem isDigit_toDigits {n : ℕ} : ∀ c ∈ Nat.toDigits 10 n, c.isDigit :=
  fun _ listed => Nat.isDigit_of_mem_toDigits (by decide) (by decide) listed

theorem toDigits_append_inj {m n : ℕ} {rest rest' : List Char} (stops : Stops rest)
    (stops' : Stops rest') (equal : Nat.toDigits 10 m ++ rest = Nat.toDigits 10 n ++ rest') :
    m = n ∧ rest = rest' := by
  have same : Nat.toDigits 10 m = Nat.toDigits 10 n := by
    rw [← takeWhile_stop isDigit_toDigits stops, equal, takeWhile_stop isDigit_toDigits stops']
  have values := congrArg (fun text => Nat.ofDigitChars 10 text 0) same
  simp only [Nat.ofDigitChars_ten_toDigits] at values
  rw [same] at equal
  exact ⟨values, List.append_cancel_left equal⟩

theorem toDigits_cons (n : ℕ) : ∃ c rest, Nat.toDigits 10 n = c :: rest ∧ c.isDigit := by
  obtain ⟨c, rest, split⟩ := List.exists_cons_of_ne_nil (Nat.toDigits_ne_nil (n := n) (b := 10))
  exact ⟨c, rest, split, isDigit_toDigits c (split ▸ List.mem_cons_self)⟩

theorem intText_append_inj {m n : ℤ} {rest rest' : List Char} (stops : Stops rest)
    (stops' : Stops rest') (equal : intText m ++ rest = intText n ++ rest') :
    m = n ∧ rest = rest' := by
  -- A minus sign is no digit, so both numbers have the same sign.
  have minus {k : ℕ} {after after' : List Char} :
      '-' :: after ≠ Nat.toDigits 10 k ++ after' := by
    obtain ⟨c, others, split, digit⟩ := toDigits_cons k
    intro clash
    rw [split, List.cons_append] at clash
    rw [← (List.cons.inj clash).1] at digit
    cases digit
  cases m with
  | ofNat m =>
    cases n with
    | ofNat n =>
      obtain ⟨rfl, rests⟩ := toDigits_append_inj stops stops' equal
      exact ⟨rfl, rests⟩
    | negSucc n => exact absurd equal.symm minus
  | negSucc m =>
    cases n with
    | ofNat n => exact absurd equal minus
    | negSucc n =>
      obtain ⟨values, rests⟩ := toDigits_append_inj stops stops' (List.cons.inj equal).2
      obtain rfl := Nat.succ.inj values
      exact ⟨rfl, rests⟩

/-- The constructor of a value, as its text shows it. -/
inductive Kind
  | null | true | false | int | str | list | dict

def kind : Json → Kind
  | .null => .null
  | .bool true => .true
  | .bool false => .false
  | .int _ => .int
  | .str _ => .str
  | .list _ => .list
  | .dict _ => .dict

/-- The kind of the values whose text begins with this character. -/
def kindOf (c : Char) : Option Kind :=
  if c.isDigit then some .int
  else if c = '-' then some .int
  else if c = 'n' then some .null
  else if c = 't' then some .true
  else if c = 'f' then some .false
  else if c = '"' then some .str
  else if c = '[' then some .list
  else if c = '\x7b' then some .dict
  else none

theorem write_kind (value : Json) :
    ∃ c rest, write value = c :: rest ∧ kindOf c = some (kind value) := by
  cases value with
  | null => exact ⟨_, _, rfl, rfl⟩
  | bool value => cases value <;> exact ⟨_, _, rfl, rfl⟩
  | int value =>
    cases value with
    | ofNat n =>
      obtain ⟨c, rest, split, digit⟩ := toDigits_cons n
      exact ⟨c, rest, split, if_pos digit⟩
    | negSucc n => exact ⟨_, _, rfl, rfl⟩
  | str value => exact ⟨_, _, rfl, rfl⟩
  | list items => exact ⟨_, _, rfl, rfl⟩
  | dict entries => exact ⟨_, _, rfl, rfl⟩

theorem kind_eq {v w : Json} {rest rest' : List Char}
    (equal : write v ++ rest = write w ++ rest') : kind v = kind w := by
  obtain ⟨c, others, first, kindV⟩ := write_kind v
  obtain ⟨d, others', second, kindW⟩ := write_kind w
  rw [first, second] at equal
  rw [(List.cons.inj equal).1] at kindV
  exact Option.some.inj (kindV.symm.trans kindW)

theorem write_ne_close {v : Json} {rest rest' : List Char} : write v ++ rest ≠ ']' :: rest' := by
  intro clash
  obtain ⟨c, others, first, kindV⟩ := write_kind v
  rw [first] at clash
  rw [(List.cons.inj clash).1] at kindV
  cases kindV

theorem stops_cons {c : Char} {rest : List Char} (other : c.isDigit = false) :
    Stops (c :: rest) := by
  rintro d ⟨⟩
  exact other

theorem stops_moreItems (items : List Json) (rest : List Char) :
    Stops (writeMoreItems items ++ ']' :: rest) := by
  cases items <;> exact stops_cons rfl

theorem stops_moreEntries (entries : List (String × Json)) (rest : List Char) :
    Stops (writeMoreEntries entries ++ '\x7d' :: rest) := by
  cases entries <;> exact stops_cons rfl

mutual

theorem write_append_inj {rest rest' : List Char} (stops : Stops rest) (stops' : Stops rest') :
    (v w : Json) → write v ++ rest = write w ++ rest' → v = w ∧ rest = rest'
  | .null, w, equal => by
      have kinds := kind_eq equal
      cases w with
      | null => exact ⟨rfl, List.append_cancel_left equal⟩
      | bool b => cases b <;> cases kinds
      | _ => cases kinds
  | .bool b, w, equal => by
      have kinds := kind_eq equal
      cases w with
      | bool b' =>
        cases b <;> cases b' <;>
          first | cases kinds; done | exact ⟨rfl, List.append_cancel_left equal⟩
      | _ => cases b <;> cases kinds
  | .int n, w, equal => by
      have kinds := kind_eq equal
      cases w with
      | int m =>
        obtain ⟨rfl, rests⟩ := intText_append_inj stops stops' equal
        exact ⟨rfl, rests⟩
      | bool b => cases b <;> cases kinds
      | _ => cases kinds
  | .str text, w, equal => by
      have kinds := kind_eq equal
      cases w with
      | str text' =>
        obtain ⟨rfl, rests⟩ := quoted_append_inj equal
        exact ⟨rfl, rests⟩
      | bool b => cases b <;> cases kinds
      | _ => cases kinds
  | .list items, w, equal => by
      have kinds := kind_eq equal
      cases w with
      | list items' =>
        simp only [write, List.cons_append, List.append_assoc, List.nil_append] at equal
        obtain ⟨rfl, rests⟩ := writeItems_append_inj items items' (List.cons.inj equal).2
        exact ⟨rfl, rests⟩
      | bool b => cases b <;> cases kinds
      | _ => cases kinds
  | .dict entries, w, equal => by
      have kinds := kind_eq equal
      cases w with
      | dict entries' =>
        simp only [write, List.cons_append, List.append_assoc, List.nil_append] at equal
        obtain ⟨rfl, rests⟩ := writeEntries_append_inj entries entries' (List.cons.inj equal).2
        exact ⟨rfl, rests⟩
      | bool b => cases b <;> cases kinds
      | _ => cases kinds

theorem writeItems_append_inj {rest rest' : List Char} : (a b : List Json) →
    writeItems a ++ ']' :: rest = writeItems b ++ ']' :: rest' → a = b ∧ rest = rest'
  | [], [], equal => ⟨rfl, (List.cons.inj equal).2⟩
  | [], w :: b, equal => by
      simp only [writeItems, List.nil_append, List.append_assoc] at equal
      exact absurd equal.symm write_ne_close
  | v :: a, [], equal => by
      simp only [writeItems, List.nil_append, List.append_assoc] at equal
      exact absurd equal write_ne_close
  | v :: a, w :: b, equal => by
      simp only [writeItems, List.append_assoc] at equal
      obtain ⟨rfl, tails⟩ :=
        write_append_inj (stops_moreItems a rest) (stops_moreItems b rest') v w equal
      obtain ⟨rfl, rests⟩ := writeMoreItems_append_inj a b tails
      exact ⟨rfl, rests⟩

theorem writeMoreItems_append_inj {rest rest' : List Char} : (a b : List Json) →
    writeMoreItems a ++ ']' :: rest = writeMoreItems b ++ ']' :: rest' → a = b ∧ rest = rest'
  | [], [], equal => ⟨rfl, (List.cons.inj equal).2⟩
  | [], _ :: _, equal => nomatch (List.cons.inj equal).1
  | _ :: _, [], equal => nomatch (List.cons.inj equal).1
  | v :: a, w :: b, equal => by
      simp only [writeMoreItems, List.cons_append, List.append_assoc] at equal
      obtain ⟨rfl, tails⟩ := write_append_inj (stops_moreItems a rest) (stops_moreItems b rest')
        v w (List.cons.inj equal).2
      obtain ⟨rfl, rests⟩ := writeMoreItems_append_inj a b tails
      exact ⟨rfl, rests⟩

theorem writeEntries_append_inj {rest rest' : List Char} : (a b : List (String × Json)) →
    writeEntries a ++ '\x7d' :: rest = writeEntries b ++ '\x7d' :: rest' → a = b ∧ rest = rest'
  | [], [], equal => ⟨rfl, (List.cons.inj equal).2⟩
  | [], (_, _) :: _, equal => nomatch (List.cons.inj equal).1
  | (_, _) :: _, [], equal => nomatch (List.cons.inj equal).1
  | (k, v) :: a, (l, w) :: b, equal => by
      simp only [writeEntries, List.cons_append, List.append_assoc] at equal
      obtain ⟨rfl, values⟩ := quoted_append_inj equal
      obtain ⟨rfl, tails⟩ := write_append_inj (stops_moreEntries a rest) (stops_moreEntries b rest')
        v w (List.cons.inj values).2
      obtain ⟨rfl, rests⟩ := writeMoreEntries_append_inj a b tails
      exact ⟨rfl, rests⟩

theorem writeMoreEntries_append_inj {rest rest' : List Char} : (a b : List (String × Json)) →
    writeMoreEntries a ++ '\x7d' :: rest = writeMoreEntries b ++ '\x7d' :: rest' →
      a = b ∧ rest = rest'
  | [], [], equal => ⟨rfl, (List.cons.inj equal).2⟩
  | [], (_, _) :: _, equal => nomatch (List.cons.inj equal).1
  | (_, _) :: _, [], equal => nomatch (List.cons.inj equal).1
  | (k, v) :: a, (l, w) :: b, equal => by
      simp only [writeMoreEntries, List.cons_append, List.append_assoc] at equal
      obtain ⟨rfl, values⟩ := quoted_append_inj (List.cons.inj equal).2
      obtain ⟨rfl, tails⟩ := write_append_inj (stops_moreEntries a rest) (stops_moreEntries b rest')
        v w (List.cons.inj values).2
      obtain ⟨rfl, rests⟩ := writeMoreEntries_append_inj a b tails
      exact ⟨rfl, rests⟩

end

theorem write_injective {v w : Json} (equal : write v = write w) : v = w := by
  have stops : Stops [] := nofun
  have padded : write v ++ [] = write w ++ [] := by rw [equal]
  exact (write_append_inj stops stops v w padded).1

/-! ## Control characters -/

/-- No character of the text is a control character. -/
def Printable (text : List Char) : Prop := ∀ c ∈ text, 32 ≤ c.toNat

theorem Printable.append {a b : List Char} (first : Printable a) (second : Printable b) :
    Printable (a ++ b) := by
  intro c listed
  exact (List.mem_append.1 listed).elim (first c) (second c)

theorem Printable.cons {c : Char} {rest : List Char} (head : 32 ≤ c.toNat)
    (tail : Printable rest) : Printable (c :: rest) := by
  intro d listed
  rcases List.mem_cons.1 listed with rfl | later
  · exact head
  · exact tail d later

theorem printable_digitChar {n : ℕ} (small : n < 16) : 32 ≤ (Nat.digitChar n).toNat := by
  have all : ∀ m < 16, 32 ≤ (Nat.digitChar m).toNat := by decide
  exact all n small

theorem printable_escapeChar (c : Char) : Printable (escapeChar c) := by
  unfold escapeChar
  split_ifs with quote backslash newline carriage tab backspace feed control
  all_goals try simp [Printable]; done
  · have digits : Printable [Nat.digitChar (c.toNat / 16), Nat.digitChar (c.toNat % 16)] :=
      .cons (printable_digitChar (by omega)) (.cons (printable_digitChar (by omega)) nofun)
    have lead : Printable ['\\', 'u', '0', '0'] := by simp [Printable]
    exact lead.append digits
  · exact .cons (Nat.le_of_not_lt control) nofun

theorem printable_quoted (text : String) : Printable (quoted text) := by
  refine .cons (by decide) (.append ?_ (.cons (by decide) nofun))
  intro c listed
  obtain ⟨d, -, escaped⟩ := List.mem_flatMap.1 listed
  exact printable_escapeChar d c escaped

theorem printable_toDigits (n : ℕ) : Printable (Nat.toDigits 10 n) := by
  intro c listed
  have digit := isDigit_toDigits c listed
  simp only [Char.isDigit, Bool.and_eq_true, decide_eq_true_eq] at digit
  have least : 48 ≤ c.toNat := digit.1
  omega

mutual

theorem printable_write : (v : Json) → Printable (write v)
  | .null | .bool true | .bool false => by simp [write, Printable]
  | .int (.ofNat n) => printable_toDigits n
  | .int (.negSucc n) => .cons (by decide) (printable_toDigits (n + 1))
  | .str text => printable_quoted text
  | .list items =>
    .cons (by decide) (.append (printable_writeItems items) (.cons (by decide) nofun))
  | .dict entries =>
    .cons (by decide) (.append (printable_writeEntries entries) (.cons (by decide) nofun))

theorem printable_writeItems : (items : List Json) → Printable (writeItems items)
  | [] => nofun
  | item :: rest => .append (printable_write item) (printable_writeMoreItems rest)

theorem printable_writeMoreItems : (items : List Json) → Printable (writeMoreItems items)
  | [] => nofun
  | item :: rest =>
    .cons (by decide) (.append (printable_write item) (printable_writeMoreItems rest))

theorem printable_writeEntries : (entries : List (String × Json)) →
    Printable (writeEntries entries)
  | [] => nofun
  | (key, value) :: rest => .append (printable_quoted key)
      (.cons (by decide) (.append (printable_write value) (printable_writeMoreEntries rest)))

theorem printable_writeMoreEntries : (entries : List (String × Json)) →
    Printable (writeMoreEntries entries)
  | [] => nofun
  | (key, value) :: rest => .cons (by decide) (.append (printable_quoted key)
      (.cons (by decide) (.append (printable_write value) (printable_writeMoreEntries rest))))

end

/-! ## Entries in the order of their keys -/

section ByKey

variable {ν : Type} {a b : List (String × ν)}

theorem byKey_perm (a : List (String × ν)) : (byKey a).Perm a := List.perm_insertionSort _ a

theorem byKey_eq_iff (nodup : (a.map Prod.fst).Nodup) : byKey a = byKey b ↔ a.Perm b := by
  constructor
  · intro sorted
    exact (byKey_perm a).symm.trans (sorted ▸ byKey_perm b)
  · intro reordered
    have transitive : IsTrans (String × ν) fun a b => a.1 ≤ b.1 := ⟨fun _ _ _ => le_trans⟩
    have total : Std.Total fun a b : String × ν => a.1 ≤ b.1 := ⟨fun a b => le_total a.1 b.1⟩
    refine List.Perm.eq_of_pairwise ?_ (List.pairwise_insertionSort _ a)
      (List.pairwise_insertionSort _ b) ?_
    · intro first second inFirst inSecond below above
      have listed : first ∈ a := (byKey_perm a).subset inFirst
      have listed' : second ∈ a := reordered.symm.subset ((byKey_perm b).subset inSecond)
      exact List.inj_on_of_nodup_map nodup listed listed' (le_antisymm below above)
    · exact ((byKey_perm a).trans reordered).trans (byKey_perm b).symm

theorem perm_iff (nodup : (a.map Prod.fst).Nodup) :
    a.Perm b ↔ a.length = b.length ∧ ∀ entry ∈ a, entry ∈ b := by
  constructor
  · intro reordered
    exact ⟨reordered.length_eq, fun _ listed => reordered.subset listed⟩
  · rintro ⟨lengths, within⟩
    exact (nodup.of_map.subperm within).perm_of_length_le lengths.ge

end ByKey

theorem sortEntries_eq_map (entries : List (String × Json)) :
    sortEntries entries = entries.map fun entry => (entry.1, sortKeys entry.2) := by
  induction entries with
  | nil => rfl
  | cons entry rest ih => rw [sortEntries, ih, List.map_cons]

theorem keys_sortEntries (entries : List (String × Json)) :
    (sortEntries entries).map Prod.fst = entries.map Prod.fst := by
  rw [sortEntries_eq_map, List.map_map]
  rfl

/-! ## Equality of values -/

theorem lookupEntry_eq_some {entries : List (String × Json)}
    (nodup : (entries.map Prod.fst).Nodup) {key : String} {value : Json} :
    OrderedDict.lookupEntry key entries = some value ↔ (key, value) ∈ entries := by
  let dict : OrderedDict String Json := ⟨entries, nodup⟩
  exact (OrderedDict.mem_entries : (key, value) ∈ dict.entries ↔ _).symm

theorem distinct_of_mem {entries : List (String × Json)} (all : distinctEntries entries = true)
    {key : String} {value : Json} (listed : (key, value) ∈ entries) : distinct value = true := by
  induction entries with
  | nil => cases listed
  | cons entry rest ih =>
    obtain ⟨k, v⟩ := entry
    simp only [distinctEntries, Bool.and_eq_true] at all
    rcases List.mem_cons.1 listed with own | later
    · rw [(Prod.mk.inj own).2]
      exact all.1
    · exact ih all.2 later

mutual

theorem same_iff_sortKeys : (v w : Json) → distinct v = true → distinct w = true →
    (same v w = true ↔ sortKeys v = sortKeys w)
  | .null, w, _, _ | .bool _, w, _, _ | .int _, w, _, _ | .str _, w, _, _ => by
      cases w <;> simp [same, sortKeys]
  | .list a, w, distinctA, distinctW => by
      cases w with
      | list b =>
        simp only [same, sortKeys, Json.list.injEq]
        exact sameItems_iff_sortItems a b distinctA distinctW
      | _ => simp [same, sortKeys]
  | .dict a, w, distinctA, distinctW => by
      cases w with
      | dict b =>
        simp only [distinct, Bool.and_eq_true, decide_eq_true_eq] at distinctA distinctW
        have nodup : ((sortEntries a).map Prod.fst).Nodup := by
          rw [keys_sortEntries]
          exact distinctA.1
        simp only [same, sortKeys, Json.dict.injEq, Bool.and_eq_true, beq_iff_eq]
        rw [byKey_eq_iff nodup, perm_iff nodup, sameEntries_iff_mem a b distinctA.2 distinctW.1
          distinctW.2, sortEntries_eq_map, sortEntries_eq_map, List.length_map, List.length_map]
      | _ => simp [same, sortKeys]

theorem sameItems_iff_sortItems : (a b : List Json) → distinctItems a = true →
    distinctItems b = true → (sameItems a b = true ↔ sortItems a = sortItems b)
  | [], b, _, _ => by cases b <;> simp [sameItems, sortItems]
  | v :: a, b, distinctA, distinctB => by
      cases b with
      | nil => simp [sameItems, sortItems]
      | cons w b =>
        simp only [distinctItems, Bool.and_eq_true] at distinctA distinctB
        simp only [sameItems, sortItems, Bool.and_eq_true, List.cons.injEq]
        rw [same_iff_sortKeys v w distinctA.1 distinctB.1,
          sameItems_iff_sortItems a b distinctA.2 distinctB.2]

theorem sameEntries_iff_mem : (a b : List (String × Json)) → distinctEntries a = true →
    (b.map Prod.fst).Nodup → distinctEntries b = true →
    (sameEntries a b = true ↔ ∀ entry ∈ sortEntries a, entry ∈ sortEntries b)
  | [], b, _, _, _ => by simp [sameEntries, sortEntries]
  | (k, v) :: a, b, distinctA, nodup, distinctB => by
      simp only [distinctEntries, Bool.and_eq_true] at distinctA
      have head : ((match OrderedDict.lookupEntry k b with
          | some found => same v found
          | none => false) = true) ↔ (k, sortKeys v) ∈ sortEntries b := by
        rw [sortEntries_eq_map, List.mem_map]
        constructor
        · intro agrees
          split at agrees
          · next found at_k =>
            have listed := (lookupEntry_eq_some nodup).1 at_k
            have equal := (same_iff_sortKeys v found distinctA.1
              (distinct_of_mem distinctB listed)).1 agrees
            exact ⟨(k, found), listed, by rw [equal]⟩
          · cases agrees
        · rintro ⟨⟨_, found⟩, listed, entries⟩
          obtain ⟨rfl, equal⟩ := Prod.mk.inj entries
          rw [(lookupEntry_eq_some nodup).2 listed]
          exact (same_iff_sortKeys v found distinctA.1
            (distinct_of_mem distinctB listed)).2 equal.symm
      rw [sameEntries, Bool.and_eq_true, head, sortEntries, List.forall_mem_cons,
        sameEntries_iff_mem a b distinctA.2 nodup distinctB]

end

theorem dumps_eq_iff {v w : Json} (distinctV : distinct v = true) (distinctW : distinct w = true) :
    dumps v = dumps w ↔ same v w = true := by
  rw [same_iff_sortKeys v w distinctV distinctW]
  exact ⟨fun equal => write_injective equal, fun equal => congrArg write equal⟩

theorem printable_dumps (v : Json) : Printable (dumps v) := printable_write _

/-! ## Records -/

def records (separator : Char) (texts : List (List Char)) : List Char :=
  texts.flatMap fun text => text ++ [separator]

theorem record_append_inj {separator : Char} {a b rest rest' : List Char} (free : separator ∉ a)
    (free' : separator ∉ b) (equal : a ++ separator :: rest = b ++ separator :: rest') :
    a = b ∧ rest = rest' := by
  have before {text after : List Char} (free : separator ∉ text) :
      (text ++ separator :: after).takeWhile (· != separator) = text := by
    refine takeWhile_stop ?_ ?_
    · intro c listed
      exact bne_iff_ne.2 (ne_of_mem_of_not_mem listed free)
    · rintro c ⟨⟩
      exact bne_self_eq_false separator
  have same : a = b := by
    rw [← @before a rest free, equal, before free']
  rw [same] at equal
  exact ⟨same, (List.cons.inj (List.append_cancel_left equal)).2⟩

theorem records_inj {separator : Char} {texts texts' : List (List Char)}
    (free : ∀ text ∈ texts, separator ∉ text) (free' : ∀ text ∈ texts', separator ∉ text)
    (equal : records separator texts = records separator texts') : texts = texts' := by
  induction texts generalizing texts' with
  | nil =>
    cases texts' with
    | nil => rfl
    | cons text rest => simp [records] at equal
  | cons text rest ih =>
    cases texts' with
    | nil => simp [records] at equal
    | cons text' rest' =>
      simp only [records, List.flatMap_cons, List.append_assoc, List.singleton_append] at equal
      rw [List.forall_mem_cons] at free free'
      obtain ⟨rfl, tails⟩ := record_append_inj free.1 free'.1 equal
      rw [ih free.2 free'.2 tails]

end Json
