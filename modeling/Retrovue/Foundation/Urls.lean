/-
**Reading a URL**, as `urllib.parse.urlparse` does it.

* `sanitize`, `splitScheme`, `splitNetloc`, `dropParams`: the steps of the reader;
* `refused`: the network locations it raises `ValueError` for;
* `urlparse`: the scheme, the network location and the path of a URL;
* `Url.hostname`: the host of the network location;
* `urlparse_of_parts`: reading a URL that was put together from a scheme, a host and a path.
-/

import Retrovue.Foundation.Casing

namespace Retrovue.Foundation.Urls

open Retrovue.Foundation.Casing

/-! ### The reader -/

section Reader

/-- **What the reader takes from the tables**: lower case, the IPv6 addresses and compatibility
decomposition. -/
structure Tables where
  casing : CaseData
  isIpv6 : List Char → Bool
  nfkc : List Char → List Char

/-- Leading controls and spaces go, and tabs and line ends anywhere. -/
def sanitize (url : List Char) : List Char :=
  (url.dropWhile fun c => c.toNat ≤ 32).filter fun c => c ∉ ['\t', '\r', '\n']

/-- `scheme_chars`. -/
def isSchemeChar (c : Char) : Bool := c.isAlphanum || c ∈ ['+', '-', '.']

/-- The text before the first colon is a scheme. -/
def isScheme (before : List Char) : Bool := before.head?.any Char.isAlpha && before.all isSchemeChar

/-- The scheme, if there is one, and what follows it. -/
def splitScheme (url : List Char) : List Char × List Char :=
  let before := url.takeWhile (· ≠ ':')
  if ':' ∈ url ∧ isScheme before = true then
    (before.map Char.toLower, url.drop (before.length + 1))
  else ([], url)

/-- `/`, `?` or `#`. -/
def endsNetloc (c : Char) : Bool := c ∈ ['/', '?', '#']

/-- The network location behind two slashes, and what follows it. -/
def splitNetloc (url : List Char) : List Char × List Char :=
  if ['/', '/'] <+: url then
    ((url.drop 2).takeWhile fun c => !endsNetloc c, (url.drop 2).dropWhile fun c => !endsNetloc c)
  else ([], url)

/-- `netloc.rpartition('@')[2]`. -/
def hostinfo (netloc : List Char) : List Char := (netloc.reverse.takeWhile (· ≠ '@')).reverse

/-- The host of a network location, in brackets or before the port. -/
def hostOf (netloc : List Char) : List Char :=
  if '[' ∈ hostinfo netloc then
    ((hostinfo netloc).dropWhile (· ≠ '[')).tail.takeWhile (· ≠ ']')
  else (hostinfo netloc).takeWhile (· ≠ ':')

variable (tables : Tables)

/-- `_check_bracketed_host` raises. -/
def refusedHost (host : List Char) : Bool :=
  match host with
  | 'v' :: version =>
    let digits := version.takeWhile fun c => c.isDigit || c ∈ "abcdefABCDEF".toList
    !(digits ≠ [] && 1 < (version.drop digits.length).length &&
      (version.drop digits.length).head? = some '.')
  | _ => !tables.isIpv6 host

/-- The bracket checks raise. -/
def refusedBrackets (netloc : List Char) : Bool :=
  if '[' ∈ netloc ∧ ']' ∈ netloc then
    let info := hostinfo netloc
    let port := (info.dropWhile (· ≠ ']')).tail
    ('[' ∈ info && (info.head? ≠ some '[' || (port ≠ [] && port.head? ≠ some ':'))) ||
      refusedHost tables (hostOf netloc)
  else '[' ∈ netloc || ']' ∈ netloc

/-- `_checknetloc` raises. -/
def refusedNfkc (netloc : List Char) : Bool :=
  let kept := netloc.filter fun c => c ∉ ['@', ':', '#', '?']
  netloc.any (fun c => 128 ≤ c.toNat) && tables.nfkc kept ≠ kept &&
    (tables.nfkc kept).any fun c => c ∈ ['/', '?', '#', '@', ':']

/-- The network locations that raise `ValueError`. -/
def refused (netloc : List Char) : Bool := refusedBrackets tables netloc || refusedNfkc tables netloc

/-- A scheme is looked up by its characters. -/
scoped instance decidableScheme (scheme : List Char) (schemes : List (List Char)) :
    Decidable (scheme ∈ schemes) := List.instDecidableMemOfLawfulBEq scheme schemes

/-- `uses_params`. -/
def usesParams : List (List Char) :=
  ["", "ftp", "hdl", "prospero", "http", "imap", "https", "shttp", "rtsp", "rtsps", "rtspu", "sip",
    "sips", "mms", "sftp", "tel"].map String.toList

/-- What follows the last slash. -/
def lastPart (path : List Char) : List Char := (path.reverse.takeWhile (· ≠ '/')).reverse

/-- `_splitparams(path)[0]`. -/
def dropParams (path : List Char) : List Char :=
  path.take (path.length - (lastPart path).length) ++ (lastPart path).takeWhile (· ≠ ';')

/-- **A URL**, its query, fragment and parameters apart. -/
structure Url where
  scheme : List Char
  netloc : List Char
  path : List Char
  deriving DecidableEq

/-- **`urlparse`**; nothing where it raises `ValueError`. -/
def urlparse (url : List Char) : Option Url :=
  let (scheme, rest) := splitScheme (sanitize url)
  let (netloc, rest) := splitNetloc rest
  if refused tables netloc then none
  else
    let path := (rest.takeWhile (· ≠ '#')).takeWhile (· ≠ '?')
    some ⟨scheme, netloc, if scheme ∈ usesParams then dropParams path else path⟩

/-- `parsed.hostname or ""`. -/
def Url.hostname (casing : CaseData) (url : Url) : List Char :=
  let host := hostOf url.netloc
  casing.lower (host.takeWhile (· ≠ '%')) ++ host.dropWhile (· ≠ '%')

end Reader

/-! ### What is read -/

section Read

variable {tables : Tables}

/-- Tabs and line ends, which are removed. -/
def isRemoved (c : Char) : Bool := c ∈ ['\t', '\r', '\n']

theorem not_removed_of_mem_sanitize {url : List Char} {c : Char} (member : c ∈ sanitize url) :
    isRemoved c = false := by
  have kept := (List.mem_filter.mp member).2
  unfold isRemoved
  simpa using kept

theorem mem_of_mem_dropParams {path : List Char} {c : Char} (member : c ∈ dropParams path) :
    c ∈ path := by
  rcases List.mem_append.mp member with early | late
  · exact List.mem_of_mem_take early
  · have inside := (List.takeWhile_sublist _).mem late
    unfold lastPart at inside
    rw [List.mem_reverse] at inside
    exact List.mem_reverse.mp ((List.takeWhile_sublist _).mem inside)

/-- A path that begins with a slash keeps it without its parameters. -/
theorem head_dropParams {path : List Char} (root : path.head? = some '/') :
    (dropParams path).head? = some '/' := by
  cases path with
  | nil => cases root
  | cons c rest =>
    cases root
    have shorter : (lastPart ('/' :: rest)).length ≤ rest.length := by
      unfold lastPart
      rw [List.length_reverse, List.reverse_cons]
      have cut : (rest.reverse ++ ['/']).takeWhile (· ≠ '/') = rest.reverse.takeWhile (· ≠ '/') := by
        induction rest.reverse with
        | nil => rfl
        | cons d more ih => rw [List.cons_append, List.takeWhile_cons, List.takeWhile_cons, ih]
      have lengths : rest.reverse.length = rest.length := List.length_reverse
      rw [cut, ← lengths]
      exact (List.takeWhile_sublist _).length_le
    unfold dropParams
    obtain ⟨n, count⟩ : ∃ n, ('/' :: rest).length - (lastPart ('/' :: rest)).length = n + 1 :=
      ⟨rest.length - (lastPart ('/' :: rest)).length, by rw [List.length_cons]; omega⟩
    rw [count, List.take_succ_cons]
    rfl

theorem ascii_of_isSchemeChar {c : Char} (scheme : isSchemeChar c = true) : c.toNat < 128 := by
  rcases Bool.or_eq_true_iff.mp scheme with alphanum | symbol
  · simp only [Char.isAlphanum, Char.isAlpha, Char.isUpper, Char.isLower, Char.isDigit,
      Bool.or_eq_true, Bool.and_eq_true, decide_eq_true_eq, UInt32.le_iff_toNat_le, ge_iff_le]
      at alphanum
    have value : c.toNat = c.val.toNat := rfl
    have upper : 'Z'.val.toNat = 90 := rfl
    have lower : 'z'.val.toNat = 122 := rfl
    have digit : '9'.val.toNat = 57 := rfl
    omega
  · have listed := of_decide_eq_true symbol
    simp only [List.mem_cons, List.not_mem_nil, or_false] at listed
    rcases listed with rfl | rfl | rfl <;> decide

theorem isSchemeChar_toLower {c : Char} (scheme : isSchemeChar c = true) :
    isSchemeChar c.toLower = true := by
  have all : ∀ n < 128, isSchemeChar (Char.ofNat n) = true →
      isSchemeChar (Char.ofNat n).toLower = true := by decide
  have here := all c.toNat (ascii_of_isSchemeChar scheme)
  rw [Char.ofNat_toNat] at here
  exact here scheme

theorem isScheme_map_toLower {before : List Char} (scheme : isScheme before = true) :
    isScheme (before.map Char.toLower) = true := by
  obtain ⟨head, chars⟩ := Bool.and_eq_true_iff.mp scheme
  refine Bool.and_eq_true_iff.mpr ⟨?_, ?_⟩
  · cases before with
    | nil => cases head
    | cons c rest =>
      have alpha : c.isAlpha = true := head
      have letter : c.toLower.isAlpha = true := by
        rcases CaseData.toLower_cases c (ascii_of_isSchemeChar (List.all_eq_true.mp chars c (by simp)))
          with same | ⟨-, lowered⟩
        · rw [same, alpha]
        · exact lowered
      exact letter
  · refine List.all_eq_true.mpr fun c member => ?_
    obtain ⟨d, among, rfl⟩ := List.mem_map.mp member
    exact isSchemeChar_toLower (List.all_eq_true.mp chars d among)

theorem toLower_toLower {c : Char} (ascii : c.toNat < 128) : c.toLower.toLower = c.toLower := by
  have all : ∀ n < 128, (Char.ofNat n).toLower.toLower = (Char.ofNat n).toLower := by decide
  have here := all c.toNat ascii
  rwa [Char.ofNat_toNat] at here

/-- **What is read**: a scheme in lower case or none, a network location and a path without the
characters that end them, and none that is removed. -/
structure Readable (url : Url) : Prop where
  scheme : url.scheme = [] ∨ isScheme url.scheme = true ∧ url.scheme.map Char.toLower = url.scheme
  netloc : ∀ c ∈ url.netloc, endsNetloc c = false ∧ isRemoved c = false
  path : ∀ c ∈ url.path, c ≠ '?' ∧ c ≠ '#' ∧ isRemoved c = false
  rooted : url.netloc ≠ [] → url.path = [] ∨ url.path.head? = some '/'

theorem splitScheme_spec (text : List Char) :
    ((splitScheme text).1 = [] ∨ isScheme (splitScheme text).1 = true ∧
      (splitScheme text).1.map Char.toLower = (splitScheme text).1) ∧
      ∀ c ∈ (splitScheme text).2, c ∈ text := by
  unfold splitScheme
  dsimp only
  split_ifs with found
  · refine ⟨Or.inr ⟨isScheme_map_toLower found.2, ?_⟩, fun c member => List.mem_of_mem_drop member⟩
    rw [List.map_map]
    refine List.map_congr_left fun c member => ?_
    have chars := (Bool.and_eq_true_iff.mp found.2).2
    exact toLower_toLower (ascii_of_isSchemeChar (List.all_eq_true.mp chars c member))
  · exact ⟨Or.inl rfl, fun c member => member⟩

theorem splitNetloc_spec (text : List Char) :
    (∀ c ∈ (splitNetloc text).1, c ∈ text ∧ endsNetloc c = false) ∧
      (∀ c ∈ (splitNetloc text).2, c ∈ text) ∧
      ((splitNetloc text).1 ≠ [] → (splitNetloc text).2 = [] ∨
        ∃ c, (splitNetloc text).2.head? = some c ∧ endsNetloc c = true) := by
  unfold splitNetloc
  split_ifs with found
  · refine ⟨fun c member => ⟨?_, ?_⟩, fun c member => ?_, fun _ => ?_⟩
    · exact List.mem_of_mem_drop ((List.takeWhile_sublist _).mem member)
    · simpa using List.mem_takeWhile_imp member
    · exact List.mem_of_mem_drop ((List.dropWhile_sublist _).mem member)
    · cases after : (text.drop 2).dropWhile fun c => !endsNetloc c with
      | nil => exact Or.inl rfl
      | cons c rest =>
        have first := List.head?_dropWhile_not (fun c => !endsNetloc c) (text.drop 2)
        rw [after] at first
        exact Or.inr ⟨c, rfl, by simpa using first⟩
  · exact ⟨fun _ none_ => absurd none_ List.not_mem_nil, fun c member => member,
      fun some_ => absurd rfl some_⟩

theorem readable_of_urlparse {text : List Char} {url : Url} (parsed : urlparse tables text = some url) :
    Readable url := by
  obtain ⟨schemes, afterScheme⟩ := splitScheme_spec (sanitize text)
  obtain ⟨netlocs, afterNetloc, begins⟩ := splitNetloc_spec (splitScheme (sanitize text)).2
  unfold urlparse at parsed
  dsimp only at parsed
  have taken : refused tables (splitNetloc (splitScheme (sanitize text)).2).1 = false := by
    rw [← Bool.not_eq_true]
    intro refusal
    rw [if_pos refusal] at parsed
    cases parsed
  rw [if_neg (by simp [taken]), Option.some.injEq] at parsed
  subst parsed
  generalize (splitScheme (sanitize text)).2 = rest at *
  have paths : ∀ c ∈ ((splitNetloc rest).2.takeWhile (· ≠ '#')).takeWhile (· ≠ '?'),
      c ≠ '?' ∧ c ≠ '#' ∧ isRemoved c = false := by
    intro c member
    have early := (List.takeWhile_sublist _).mem member
    refine ⟨by simpa using List.mem_takeWhile_imp member, by simpa using List.mem_takeWhile_imp early, ?_⟩
    have inside := afterNetloc c ((List.takeWhile_sublist _).mem early)
    exact not_removed_of_mem_sanitize (afterScheme c inside)
  have heads : (splitNetloc rest).1 ≠ [] →
      ((splitNetloc rest).2.takeWhile (· ≠ '#')).takeWhile (· ≠ '?') = [] ∨
        (((splitNetloc rest).2.takeWhile (· ≠ '#')).takeWhile (· ≠ '?')).head? = some '/' := by
    intro some_
    rcases begins some_ with none_ | ⟨c, first, ends⟩
    · rw [none_]
      exact Or.inl rfl
    · cases listed : (splitNetloc rest).2 with
      | nil => exact Or.inl rfl
      | cons d more =>
        rw [listed] at first
        cases first
        unfold endsNetloc at ends
        have among := of_decide_eq_true ends
        simp only [List.mem_cons, List.not_mem_nil, or_false] at among
        rcases among with rfl | rfl | rfl
        · exact Or.inr rfl
        · exact Or.inl rfl
        · exact Or.inl rfl
  refine ⟨schemes, fun c member => ⟨(netlocs c member).2, ?_⟩, fun c member => ?_, fun some_ => ?_⟩
  · exact not_removed_of_mem_sanitize (afterScheme c (netlocs c member).1)
  · dsimp only at member
    split_ifs at member
    · exact paths c (mem_of_mem_dropParams member)
    · exact paths c member
  · dsimp only
    split_ifs
    · rcases heads some_ with none_ | root
      · rw [none_]
        exact Or.inl rfl
      · exact Or.inr (head_dropParams root)
    · exact heads some_

/-- **Reading a URL that was put together** from a scheme, a network location and a path. -/
theorem urlparse_of_parts {url : Url} (readable : Readable url) (given : url.scheme ≠ [])
    (rooted : url.path = [] ∨ url.path.head? = some '/') :
    urlparse tables (url.scheme ++ "://".toList ++ url.netloc ++ url.path) =
      if refused tables url.netloc then none
      else some { url with
        path := if url.scheme ∈ usesParams then dropParams url.path else url.path } := by
  obtain ⟨valid, lowered⟩ := readable.scheme.resolve_left given
  obtain ⟨head, chars⟩ := Bool.and_eq_true_iff.mp valid
  have schemeChar : ∀ c ∈ url.scheme, isSchemeChar c = true := List.all_eq_true.mp chars
  have colon : ∀ c ∈ url.scheme, c ≠ ':' := by
    rintro c member rfl
    cases schemeChar _ member
  have clean : ∀ c ∈ url.scheme ++ "://".toList ++ url.netloc ++ url.path, c ∉ ['\t', '\r', '\n'] := by
    intro c member
    have kept : isRemoved c = false := by
      rcases List.mem_append.mp member with early | inPath
      · rcases List.mem_append.mp early with first | inNetloc
        · rcases List.mem_append.mp first with inScheme | mark
          · rw [← Bool.not_eq_true]
            intro removed
            have among := of_decide_eq_true removed
            simp only [List.mem_cons, List.not_mem_nil, or_false] at among
            have scheme := schemeChar c inScheme
            rcases among with rfl | rfl | rfl <;> cases scheme
          · have among : c = ':' ∨ c = '/' ∨ c = '/' := by simpa using mark
            rcases among with rfl | rfl | rfl <;> rfl
        · exact (readable.netloc c inNetloc).2
      · exact (readable.path c inPath).2.2
    exact of_decide_eq_false kept
  have text : url.scheme ++ "://".toList ++ url.netloc ++ url.path =
      url.scheme ++ ':' :: '/' :: '/' :: (url.netloc ++ url.path) := by
    simp
  have whole : sanitize (url.scheme ++ "://".toList ++ url.netloc ++ url.path) =
      url.scheme ++ ':' :: '/' :: '/' :: (url.netloc ++ url.path) := by
    unfold sanitize
    rw [← text]
    refine Eq.trans (congrArg _ ?_) (List.filter_eq_self.mpr fun c member =>
      decide_eq_true (clean c member))
    cases scheme : url.scheme with
    | nil => exact absurd scheme given
    | cons c rest =>
      rw [scheme] at head
      have alpha : c.isAlpha = true := head
      have above : 32 < c.toNat := by
        simp only [Char.isAlpha, Char.isUpper, Char.isLower, Bool.or_eq_true, Bool.and_eq_true,
          decide_eq_true_eq, UInt32.le_iff_toNat_le, ge_iff_le] at alpha
        have value : c.toNat = c.val.toNat := rfl
        have upper : 'A'.val.toNat = 65 := rfl
        have lower : 'a'.val.toNat = 97 := rfl
        omega
      exact List.dropWhile_cons_of_neg (by simpa using above)
  have scheme : splitScheme (url.scheme ++ ':' :: '/' :: '/' :: (url.netloc ++ url.path)) =
      (url.scheme, '/' :: '/' :: (url.netloc ++ url.path)) := by
    have before : (url.scheme ++ ':' :: '/' :: '/' :: (url.netloc ++ url.path)).takeWhile (· ≠ ':') =
        url.scheme := by
      rw [List.takeWhile_append_of_pos fun c member => by simpa using colon c member,
        List.takeWhile_cons_of_neg (by simp), List.append_nil]
    unfold splitScheme
    rw [before, if_pos ⟨by simp, valid⟩, lowered]
    simp
  have netloc : splitNetloc ('/' :: '/' :: (url.netloc ++ url.path)) = (url.netloc, url.path) := by
    have free : ∀ c ∈ url.netloc, (!endsNetloc c) = true := fun c member => by
      rw [(readable.netloc c member).1]
      rfl
    have ends : url.path.takeWhile (fun c => !endsNetloc c) = [] ∧
        url.path.dropWhile (fun c => !endsNetloc c) = url.path := by
      rcases rooted with none_ | root
      · rw [none_]
        exact ⟨rfl, rfl⟩
      · cases listed : url.path with
        | nil => exact ⟨rfl, rfl⟩
        | cons c rest =>
          rw [listed] at root
          cases root
          exact ⟨rfl, rfl⟩
    unfold splitNetloc
    rw [if_pos ⟨_, rfl⟩]
    show ((url.netloc ++ url.path).takeWhile _, (url.netloc ++ url.path).dropWhile _) = _
    rw [List.takeWhile_append_of_pos free, List.dropWhile_append_of_pos free, ends.1, ends.2,
      List.append_nil]
  have path : (url.path.takeWhile (· ≠ '#')).takeWhile (· ≠ '?') = url.path := by
    have fragment : url.path.takeWhile (· ≠ '#') = url.path :=
      List.takeWhile_eq_self_iff.mpr fun c member => by simpa using (readable.path c member).2.1
    rw [fragment]
    exact List.takeWhile_eq_self_iff.mpr fun c member => by simpa using (readable.path c member).1
  unfold urlparse
  rw [whole, scheme]
  dsimp only
  rw [netloc]
  dsimp only
  rw [path]

end Read

end Retrovue.Foundation.Urls
