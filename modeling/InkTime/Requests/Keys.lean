import InkTime.Library.PrefixCode
import InkTime.Library.Delimited
import InkTime.Library.Texts
import Mathlib.Data.List.DropRight

/-!
# Idempotency keys

The durable names of a request and of its groups.
-/

namespace InkTime.Requests

open Texts (strip isSpace strip_eq_self head_strip last_strip)

/-- SHA-256 in hexadecimal digits, and what Unicode takes for a letter or a digit. -/
structure Runtime where
  hexdigest : String → String
  isalnum : Char → Bool
  length_hexdigest : ∀ text, (hexdigest text).length = 64
  hexdigest_digits : ∀ text, ∀ c ∈ (hexdigest text).toList, c ∈ "0123456789abcdef".toList
  isalnum_colon : isalnum ':' = false
  isalnum_space : ∀ c, isalnum c = true → isSpace c = false

/-! ### Texts in JSON -/

def hexDigit (value : ℕ) : Char := if value < 10 then Char.ofNat (48 + value) else Char.ofNat (87 + value)

/-- A character in a JSON text, with `ensure_ascii=False`. -/
def escape (c : Char) : List Char :=
  if c = '"' then ['\\', '"']
  else if c = '\\' then ['\\', '\\']
  else if c = '\n' then ['\\', 'n']
  else if c = '\r' then ['\\', 'r']
  else if c = '\t' then ['\\', 't']
  else if c.toNat = 8 then ['\\', 'b']
  else if c.toNat = 12 then ['\\', 'f']
  else if c.toNat < 32 then ['\\', 'u', '0', '0', hexDigit (c.toNat / 16), hexDigit (c.toNat % 16)]
  else [c]

def jsonText (text : String) : List Char := '"' :: (text.toList.flatMap escape ++ ['"'])

/-! ### Keys -/

/-- `str(raw_key or "").strip()[:128]` -/
def normalizedKey (rawKey : Option String) : String := String.ofList ((strip (rawKey.getD "")).toList.take 128)

section

variable (rt : Runtime)

def actorDigest (actor : String) : List Char := (rt.hexdigest actor).toList.take 24

def scopedIdempotencyKey (endpoint actor : String) (rawKey : Option String) : Option String :=
  let key := normalizedKey rawKey
  if key = "" then none
  else some (String.ofList ("idempotency:".toList ++ endpoint.toList ++ ':' :: actorDigest rt actor ++ ':' :: key.toList))

/-- The text that names a group where the short form would be ambiguous. -/
def canonicalGroup (key group : String) : String :=
  String.ofList ("\x7b\"domain\":\"ai-mode-run/full-library/group\",\"group\":".toList ++ jsonText group ++ ",\"key\":".toList ++
    jsonText key ++ ",\"version\":1\x7d".toList)

def keyHint (key : String) : List Char :=
  let hint := (key.toList.take 24).map fun c => if rt.isalnum c then c else '_'
  if hint = [] then "key".toList else hint

def groupedIdempotencyKey (rawKey : Option String) (group : String) : Option String :=
  let key := normalizedKey rawKey
  let legacy := key.toList ++ ':' :: group.toList
  if key = "" then none
  else if ':' ∉ key.toList ∧ ':' ∉ group.toList ∧ group = strip group ∧ legacy.length ≤ 128 then some (String.ofList legacy)
  else some (String.ofList (keyHint rt key ++ ":g1:".toList ++ (rt.hexdigest (canonicalGroup key group)).toList))

end

/-! ### Texts can be read back -/

def unhex (c : Char) : ℕ := if c.toNat < 58 then c.toNat - 48 else c.toNat - 87

def readEscape : List Char → Option (Char × List Char)
  | '"' :: rest => some ('"', rest)
  | '\\' :: rest => some ('\\', rest)
  | 'n' :: rest => some ('\n', rest)
  | 'r' :: rest => some ('\r', rest)
  | 't' :: rest => some ('\t', rest)
  | 'b' :: rest => some (Char.ofNat 8, rest)
  | 'f' :: rest => some (Char.ofNat 12, rest)
  | 'u' :: _ :: _ :: high :: low :: rest => some (Char.ofNat (unhex high * 16 + unhex low), rest)
  | _ => none

/-- One character off the front of a JSON text. -/
def readChar : List Char → Option (Char × List Char)
  | c :: rest => if c = '\\' then readEscape rest else some (c, rest)
  | [] => none

lemma unhex_hexDigit : ∀ value < 16, unhex (hexDigit value) = value := by decide

lemma eq_ofNat {c : Char} {value : ℕ} (h : c.toNat = value) : Char.ofNat value = c := by
  rw [← h, Char.ofNat_toNat]

lemma escape_reads : PrefixCode.Reads escape readChar := by
  intro c rest
  unfold escape
  by_cases hslash : c = '\\'
  · rw [hslash]
    rfl
  split
  · next h => rw [h]; rfl
  split
  · next h => rw [h]; rfl
  split
  · next h => rw [h]; rfl
  split
  · next h => rw [h]; rfl
  split
  · next h => rw [← eq_ofNat h]; rfl
  split
  · next h => rw [← eq_ofNat h]; rfl
  split
  · have hvalue : unhex (hexDigit (c.toNat / 16)) * 16 + unhex (hexDigit (c.toNat % 16)) = c.toNat := by
      rw [unhex_hexDigit _ (by omega), unhex_hexDigit _ (by omega)]
      omega
    change some (Char.ofNat (unhex (hexDigit (c.toNat / 16)) * 16 + unhex (hexDigit (c.toNat % 16))), rest) = _
    rw [hvalue, Char.ofNat_toNat]
  · exact if_neg hslash

lemma escape_stops : PrefixCode.Stops escape '"' := by
  intro c rest rest'
  unfold escape
  iterate 8
    split
    · simp
  next hquote _ _ _ _ _ _ _ => simp [hquote]

lemma jsonText_inj {text text' : String} {rest rest' : List Char} (h : jsonText text ++ rest = jsonText text' ++ rest') :
    text = text' ∧ rest = rest' := by
  unfold jsonText at h
  rw [List.cons_append, List.cons_append, List.cons.injEq, List.append_assoc, List.append_assoc] at h
  obtain ⟨htext, hrest⟩ := PrefixCode.flatMap_inj escape_reads escape_stops h.2
  exact ⟨String.toList_inj.mp htext, hrest⟩

lemma ofList_inj {chars chars' : List Char} (h : String.ofList chars = String.ofList chars') : chars = chars' := by
  have htoList := congrArg String.toList h
  rwa [String.toList_ofList, String.toList_ofList] at htoList

lemma canonicalGroup_inj {key key' group group' : String} (h : canonicalGroup key group = canonicalGroup key' group') :
    key = key' ∧ group = group' := by
  have hchars := ofList_inj h
  simp only [List.append_assoc] at hchars
  obtain ⟨hgroup, hrest⟩ := jsonText_inj (List.append_cancel_left hchars)
  obtain ⟨hkey, -⟩ := jsonText_inj (List.append_cancel_left hrest)
  exact ⟨hkey, hgroup⟩

/-! ### Keys are normal -/

lemma head_normalizedKey (rawKey : Option String) : ∀ c ∈ (normalizedKey rawKey).toList.head?, isSpace c = false := by
  unfold normalizedKey
  rw [String.toList_ofList, List.head?_take, if_neg (by decide)]
  exact head_strip _

lemma normalizedKey_eq_self {chars : List Char} (hfirst : ∀ c ∈ chars.head?, isSpace c = false)
    (hlast : ∀ c ∈ chars.getLast?, isSpace c = false) (hlength : chars.length ≤ 128) :
    normalizedKey (some (String.ofList chars)) = String.ofList chars := by
  unfold normalizedKey
  rw [Option.getD_some, strip_eq_self hfirst hlast, String.toList_ofList, List.take_of_length_le hlength]

section

variable {rt : Runtime} {rawKey rawKey' : Option String} {group group' endpoint actor : String}

lemma toList_ne_nil {text : String} (h : text ≠ "") : text.toList ≠ [] := fun hnil => h (String.toList_eq_nil_iff.mp hnil)

variable (rt) in
lemma keyHint_spec {key : String} (h : key ≠ "") : keyHint rt key ≠ [] ∧ (keyHint rt key).length ≤ 24 ∧
    ∀ c ∈ keyHint rt key, c ≠ ':' ∧ isSpace c = false := by
  have hhint : (key.toList.take 24).map (fun c => if rt.isalnum c then c else '_') ≠ [] := by
    rw [Ne, List.map_eq_nil_iff, List.take_eq_nil_iff, not_or]
    exact ⟨by decide, toList_ne_nil h⟩
  unfold keyHint
  dsimp only
  rw [if_neg hhint]
  refine ⟨hhint, ?_, ?_⟩
  · rw [List.length_map, List.length_take]
    omega
  · intro c hc
    obtain ⟨original, -, rfl⟩ := List.mem_map.mp hc
    split
    · next halnum =>
      refine ⟨?_, rt.isalnum_space _ halnum⟩
      rintro rfl
      rw [rt.isalnum_colon] at halnum
      cases halnum
    · exact ⟨by decide, by decide⟩

lemma digest_spec (rt : Runtime) (text : String) : (rt.hexdigest text).toList.length = 64 ∧
    ∀ c ∈ (rt.hexdigest text).toList, c ≠ ':' ∧ isSpace c = false := by
  refine ⟨(String.length_toList).trans (rt.length_hexdigest text), ?_⟩
  have hall : ("0123456789abcdef".toList.all fun c => c != ':' && !isSpace c) = true := by decide
  have hdigits : ∀ c ∈ "0123456789abcdef".toList, c ≠ ':' ∧ isSpace c = false := by simpa using hall
  exact fun c hc => hdigits c (rt.hexdigest_digits text c hc)

/-- The short form of a group's key. -/
def legacyKey (key group : String) : List Char := key.toList ++ ':' :: group.toList

variable (rt) in
/-- The form for groups whose short form would be ambiguous. -/
def hashedKey (key group : String) : List Char :=
  keyHint rt key ++ ":g1:".toList ++ (rt.hexdigest (canonicalGroup key group)).toList

lemma legacyKey_normal (hkey : normalizedKey rawKey ≠ "") (hstrip : group = strip group)
    (hlength : (legacyKey (normalizedKey rawKey) group).length ≤ 128) :
    normalizedKey (some (String.ofList (legacyKey (normalizedKey rawKey) group))) =
      String.ofList (legacyKey (normalizedKey rawKey) group) := by
  apply normalizedKey_eq_self _ _ hlength
  · unfold legacyKey
    rw [List.head?_append_of_ne_nil _ (toList_ne_nil hkey)]
    exact head_normalizedKey rawKey
  · intro c hc
    unfold legacyKey at hc
    rw [List.getLast?_append, List.getLast?_cons, Option.some_or, Option.mem_some_iff] at hc
    cases hlast : group.toList.getLast? with
    | none =>
      rw [hlast, Option.getD_none] at hc
      rw [← hc]
      decide
    | some last =>
      rw [hlast, Option.getD_some] at hc
      rw [hstrip] at hlast
      exact hc ▸ last_strip group last hlast

lemma hashedKey_normal {key : String} (hkey : key ≠ "") :
    normalizedKey (some (String.ofList (hashedKey rt key group))) = String.ofList (hashedKey rt key group) := by
  obtain ⟨hne, hlength, hhint⟩ := keyHint_spec rt hkey
  obtain ⟨hdigest, hdigits⟩ := digest_spec rt (canonicalGroup key group)
  apply normalizedKey_eq_self
  · intro c hc
    unfold hashedKey at hc
    rw [List.append_assoc, List.head?_append_of_ne_nil _ hne] at hc
    exact (hhint c (List.mem_of_mem_head? hc)).2
  · intro c hc
    unfold hashedKey at hc
    rw [List.getLast?_append_of_ne_nil _ (List.ne_nil_of_length_pos (by omega))] at hc
    exact (hdigits c (List.mem_of_getLast? hc)).2
  · unfold hashedKey
    rw [List.length_append, List.length_append, hdigest]
    have hseparator : ":g1:".toList.length = 4 := by decide
    omega

lemma ofList_ne_empty {chars : List Char} (h : ':' ∈ chars) : String.ofList chars ≠ "" := by
  intro hempty
  have hnil := congrArg String.toList hempty
  rw [String.toList_ofList] at hnil
  rw [hnil] at h
  cases h

variable (rt group) in
/-- A group has a key of one of the two forms, which no further normalisation changes. -/
lemma grouped_cases (hkey : normalizedKey rawKey ≠ "") : ∃ chars, groupedIdempotencyKey rt rawKey group = some (String.ofList chars) ∧
    normalizedKey (some (String.ofList chars)) = String.ofList chars ∧ String.ofList chars ≠ "" ∧
      ((chars = legacyKey (normalizedKey rawKey) group ∧ ':' ∉ (normalizedKey rawKey).toList ∧ ':' ∉ group.toList) ∨
        chars = hashedKey rt (normalizedKey rawKey) group) := by
  unfold groupedIdempotencyKey
  dsimp only
  rw [if_neg hkey]
  split
  · next hlegacy =>
    obtain ⟨hcolon, hgroup, hstrip, hlength⟩ := hlegacy
    have hmem : ':' ∈ legacyKey (normalizedKey rawKey) group := List.mem_append_right _ (List.mem_cons_self ..)
    exact ⟨legacyKey (normalizedKey rawKey) group, rfl, legacyKey_normal hkey hstrip hlength, ofList_ne_empty hmem,
      .inl ⟨rfl, hcolon, hgroup⟩⟩
  · have hmem : ':' ∈ hashedKey rt (normalizedKey rawKey) group := List.mem_append_left _ (List.mem_append_right _ (by decide))
    exact ⟨hashedKey rt (normalizedKey rawKey) group, rfl, hashedKey_normal hkey, ofList_ne_empty hmem, .inr rfl⟩

lemma scoped_eq_some (hkey : normalizedKey rawKey ≠ "") : scopedIdempotencyKey rt endpoint actor rawKey =
    some (String.ofList
      ("idempotency:".toList ++ endpoint.toList ++ ':' :: actorDigest rt actor ++ ':' :: (normalizedKey rawKey).toList)) := by
  unfold scopedIdempotencyKey
  exact if_neg hkey

lemma scoped_inj {actor' : String} (hkey : normalizedKey rawKey ≠ "") (hkey' : normalizedKey rawKey' ≠ "")
    (h : scopedIdempotencyKey rt endpoint actor rawKey = scopedIdempotencyKey rt endpoint actor' rawKey') :
    actorDigest rt actor = actorDigest rt actor' ∧ normalizedKey rawKey = normalizedKey rawKey' := by
  rw [scoped_eq_some hkey, scoped_eq_some hkey', Option.some.injEq] at h
  have hchars := ofList_inj h
  simp only [List.append_assoc, List.cons_append, List.append_cancel_left_eq, List.cons.injEq, true_and] at hchars
  have hlength : (actorDigest rt actor).length = (actorDigest rt actor').length := by
    unfold actorDigest
    rw [List.length_take, List.length_take, (digest_spec rt actor).1, (digest_spec rt actor').1]
  obtain ⟨hdigest, hrest⟩ := List.append_inj hchars hlength
  exact ⟨hdigest, String.toList_inj.mp (List.cons.inj hrest).2⟩

lemma hashedKey_split (key group : String) : hashedKey rt key group = (keyHint rt key ++ ":g1".toList) ++ ':' ::
    (rt.hexdigest (canonicalGroup key group)).toList := by
  unfold hashedKey
  rw [List.append_assoc, List.append_assoc]
  rfl

lemma colon_notMem_digest (text : String) : ':' ∉ (rt.hexdigest text).toList := fun hmem => ((digest_spec rt text).2 ':' hmem).1 rfl

/-- The short form has one separator, the other one two. -/
lemma legacyKey_ne_hashedKey {key key' : String} (hkey : ':' ∉ key.toList) (hgroup : ':' ∉ group.toList) :
    legacyKey key group ≠ hashedKey rt key' group' := by
  intro heq
  rw [hashedKey_split] at heq
  obtain ⟨hbefore, -⟩ := Delimited.append_separator_inj hgroup (colon_notMem_digest _) heq
  rw [hbefore] at hkey
  exact hkey (List.mem_append_right _ (by decide))

lemma hashedKey_inj {key key' : String} (h : hashedKey rt key group = hashedKey rt key' group') : (key = key' ∧ group = group') ∨
    (canonicalGroup key group ≠ canonicalGroup key' group' ∧
      rt.hexdigest (canonicalGroup key group) = rt.hexdigest (canonicalGroup key' group')) := by
  rw [hashedKey_split, hashedKey_split] at h
  obtain ⟨-, hdigest⟩ := Delimited.append_separator_inj (colon_notMem_digest _) (colon_notMem_digest _) h
  by_cases hcanonical : canonicalGroup key group = canonicalGroup key' group'
  · exact .inl (canonicalGroup_inj hcanonical)
  · exact .inr ⟨hcanonical, String.toList_inj.mp hdigest⟩

/-- A group's key names it, up to a collision of the digests of two texts. -/
lemma grouped_inj (hkey : normalizedKey rawKey ≠ "") (hkey' : normalizedKey rawKey' ≠ "")
    (h : groupedIdempotencyKey rt rawKey group = groupedIdempotencyKey rt rawKey' group') :
    (normalizedKey rawKey = normalizedKey rawKey' ∧ group = group') ∨
      (canonicalGroup (normalizedKey rawKey) group ≠ canonicalGroup (normalizedKey rawKey') group' ∧
        rt.hexdigest (canonicalGroup (normalizedKey rawKey) group) = rt.hexdigest (canonicalGroup (normalizedKey rawKey') group')) := by
  obtain ⟨chars, hgrouped, -, -, hform⟩ := grouped_cases rt group hkey
  obtain ⟨chars', hgrouped', -, -, hform'⟩ := grouped_cases rt group' hkey'
  rw [hgrouped, hgrouped', Option.some.injEq] at h
  have hsame := ofList_inj h
  obtain ⟨hshort, hcolon, hgroup⟩ | hlong := hform
  · rw [hshort] at hsame
    obtain ⟨hshort', -, hgroup'⟩ | hlong' := hform'
    · rw [hshort'] at hsame
      obtain ⟨hkeys, hgroups⟩ := Delimited.append_separator_inj hgroup hgroup' hsame
      exact .inl ⟨String.toList_inj.mp hkeys, String.toList_inj.mp hgroups⟩
    · rw [hlong'] at hsame
      exact absurd hsame (legacyKey_ne_hashedKey hcolon hgroup)
  · rw [hlong] at hsame
    obtain ⟨hshort', hcolon', hgroup'⟩ | hlong' := hform'
    · rw [hshort'] at hsame
      exact absurd hsame.symm (legacyKey_ne_hashedKey hcolon' hgroup')
    · rw [hlong'] at hsame
      exact hashedKey_inj hsame

lemma scoped_grouped_inj {actor' : String} (hkey : normalizedKey rawKey ≠ "") (hkey' : normalizedKey rawKey' ≠ "")
    (h : scopedIdempotencyKey rt endpoint actor (groupedIdempotencyKey rt rawKey group) =
      scopedIdempotencyKey rt endpoint actor' (groupedIdempotencyKey rt rawKey' group')) :
    actorDigest rt actor = actorDigest rt actor' ∧
      groupedIdempotencyKey rt rawKey group = groupedIdempotencyKey rt rawKey' group' := by
  obtain ⟨chars, hgrouped, hnormal, hne, -⟩ := grouped_cases rt group hkey
  obtain ⟨chars', hgrouped', hnormal', hne', -⟩ := grouped_cases rt group' hkey'
  rw [hgrouped, hgrouped'] at h ⊢
  obtain ⟨hactor, hchars⟩ := scoped_inj (hnormal.symm ▸ hne) (hnormal'.symm ▸ hne') h
  rw [hnormal, hnormal'] at hchars
  exact ⟨hactor, congrArg some hchars⟩

/-- Two groups share the key of a job only where they are one group of one request, or where SHA-256 has one
digest for the two different texts that name them. -/
theorem group_key_identifies {actor' : String} (hkey : normalizedKey rawKey ≠ "") (hkey' : normalizedKey rawKey' ≠ "")
    (h : scopedIdempotencyKey rt endpoint actor (groupedIdempotencyKey rt rawKey group) =
      scopedIdempotencyKey rt endpoint actor' (groupedIdempotencyKey rt rawKey' group')) :
    actorDigest rt actor = actorDigest rt actor' ∧ ((normalizedKey rawKey = normalizedKey rawKey' ∧ group = group') ∨
      (canonicalGroup (normalizedKey rawKey) group ≠ canonicalGroup (normalizedKey rawKey') group' ∧
        rt.hexdigest (canonicalGroup (normalizedKey rawKey) group) = rt.hexdigest (canonicalGroup (normalizedKey rawKey') group'))) := by
  obtain ⟨hactor, hgrouped⟩ := scoped_grouped_inj hkey hkey' h
  exact ⟨hactor, grouped_inj hkey hkey' hgrouped⟩

end

/-! ### Four digests -/

/-- What SHA-256 makes of the actor `1` and of the texts that name three groups. -/
def knownDigests : List (String × String) :=
  [("1", "6b86b273ff34fce19d6b804eff5a3f5747ada4eaa22f1d49c01e52ddb7875b4b"),
    (canonicalGroup "run:7" "2020", "011e154a451e5055c9d36ad68217c5a8a7e8df09b6e7828b6b579120a2f214a5"),
    (canonicalGroup "nightly" "2019", "4723c380fe842a3d1b3a93fd2d77a5a6ce4a334622e6f050c4fef15d644803f8"),
    (canonicalGroup "nightly" "2020", "b94939fe4dcbae870cca1e182c5b49cba3c48faff18bf460bfef8338ae7aec81")]

def sampleDigest (text : String) : String :=
  (knownDigests.lookup text).getD "0000000000000000000000000000000000000000000000000000000000000000"

lemma sampleDigest_of_all (property : String → Bool) (hknown : (knownDigests.all fun known => property known.2) = true)
    (hother : property "0000000000000000000000000000000000000000000000000000000000000000" = true) (text : String) :
    property (sampleDigest text) = true := by
  unfold sampleDigest
  cases hlookup : knownDigests.lookup text with
  | none => exact hother
  | some digest =>
    obtain ⟨before, after, hsplit, -⟩ := List.lookup_eq_some_iff.mp hlookup
    rw [hsplit, List.all_append, List.all_cons] at hknown
    simp only [Bool.and_eq_true] at hknown
    exact hknown.2.1

lemma isSpace_of_isAlphanum {c : Char} (h : c.isAlphanum = true) : isSpace c = false := by
  have hval : c.toNat = c.val.toNat := rfl
  unfold Char.isAlphanum Char.isAlpha Char.isUpper Char.isLower Char.isDigit at h
  unfold isSpace
  simp [UInt32.le_iff_toNat_le, ← UInt32.toNat_inj] at h ⊢
  omega

def isHexadecimal (text : String) : Bool := text.toList.all "0123456789abcdef".toList.contains

lemma of_isHexadecimal {text : String} (h : isHexadecimal text = true) : ∀ c ∈ text.toList, c ∈ "0123456789abcdef".toList := by
  intro c hc
  exact List.contains_iff_mem.mp (List.all_eq_true.mp h c hc)

def sampleRuntime : Runtime where
  hexdigest := sampleDigest
  isalnum := Char.isAlphanum
  length_hexdigest := by
    intro text
    exact beq_iff_eq.mp (sampleDigest_of_all (fun digest => digest.length == 64) (by decide) (by decide) text)
  hexdigest_digits := by
    intro text
    exact of_isHexadecimal (sampleDigest_of_all isHexadecimal (by decide) (by decide) text)
  isalnum_colon := by decide
  isalnum_space := fun _ h => isSpace_of_isAlphanum h

theorem group_key_identifies_padded : actorDigest sampleRuntime "1" = actorDigest sampleRuntime "1" ∧
    ((normalizedKey (some "run:7") = normalizedKey (some " run:7 ") ∧ "2020" = "2020") ∨
      (canonicalGroup (normalizedKey (some "run:7")) "2020" ≠ canonicalGroup (normalizedKey (some " run:7 ")) "2020" ∧
        sampleRuntime.hexdigest (canonicalGroup (normalizedKey (some "run:7")) "2020") =
          sampleRuntime.hexdigest (canonicalGroup (normalizedKey (some " run:7 ")) "2020"))) := by
  have hnormal : normalizedKey (some " run:7 ") = normalizedKey (some "run:7") := by decide +kernel
  have hne : normalizedKey (some "run:7") ≠ "" := by decide +kernel
  have hkeys : scopedIdempotencyKey sampleRuntime "ai-mode-run" "1" (groupedIdempotencyKey sampleRuntime (some "run:7") "2020") =
      scopedIdempotencyKey sampleRuntime "ai-mode-run" "1" (groupedIdempotencyKey sampleRuntime (some " run:7 ") "2020") := by
    unfold groupedIdempotencyKey
    rw [hnormal]
  exact group_key_identifies hne (hnormal.symm ▸ hne) hkeys

end InkTime.Requests
