import Mathlib
import LinkedQueries.AccessLog.Entry
import LinkedQueries.Proofs.Text.Split
import LinkedQueries.Proofs.Url.Query

/-!
# Logged query texts are recovered

A query text is logged as the value of a parameter. Clients write it in many ways: a character may
be escaped, a space may be a plus sign, and most characters may be left as they are, those included
that an address may not hold. A request with such a value finds its text again, whatever other
parameters stand before and after it.

Results:
* `Writes.spells`: a written text spells its bytes, once its braces are escaped.
* `queryText?_target`: the query text of a target.
* **`extract_query`**: the entry of a line with such a target has the query text and no complaint.
-/

namespace LinkedQueries.AccessLog

/-! ## Ways of writing a text -/

/-- Control characters. -/
def isControl (c : Char) : Bool :=
  c.toNat < 0x20 || (0x7F ≤ c.toNat && c.toNat ≤ 0x9F)

/-- Whether a character may stand in a value as it is. -/
def isRaw (c : Char) : Bool :=
  !isBlank c && !isControl c && c != '"' && c != '#' && c != '%' && c != '&' && c != '+'

/-- The escapes of some bytes, with digits of either case. -/
inductive Escapes : List Char → List UInt8 → Prop where
  | nil : Escapes [] []
  | cons {b : UInt8} {high low : Char} {cs : List Char} {bytes : List UInt8}
      (hh : high = upperHex (b.toNat / 16) ∨ high = lowerHex (b.toNat / 16))
      (hl : low = upperHex (b.toNat % 16) ∨ low = lowerHex (b.toNat % 16)) :
      Escapes cs bytes → Escapes ('%' :: high :: low :: cs) (b :: bytes)

/-- A way of writing a text as the value of a parameter: each character is escaped, or is a space
written as a plus sign, or is left as it is. -/
inductive Writes : List Char → List Char → Prop where
  | nil : Writes [] []
  | escaped {c : Char} {escape value text : List Char}
      (bytes : Escapes escape (String.utf8EncodeChar c)) :
      Writes value text → Writes (escape ++ value) (c :: text)
  | space {value text : List Char} : Writes value text → Writes ('+' :: value) (' ' :: text)
  | raw {c : Char} {value text : List Char} (raw : isRaw c = true) :
      Writes value text → Writes (c :: value) (c :: text)

/-- Unreserved characters, and the percent sign with which an escape begins. -/
def isPlain (c : Char) : Bool :=
  c.isAlphanum || c == '-' || c == '.' || c == '_' || c == '~' || c == '%'

/-- A parameter of a target: a name, with a value or without. -/
structure Parameter where
  name : List Char
  value : Option (List Char)

/-- The text of a parameter. -/
def Parameter.chars (p : Parameter) : List Char :=
  p.name ++ p.value.elim [] ('=' :: ·)

/-- Whether name and value are unreserved characters and escapes. -/
def Parameter.plain (p : Parameter) : Bool :=
  p.name.all isPlain && p.value.all (·.all isPlain)

/-- The name that a parameter denotes. -/
def Parameter.decodedName (p : Parameter) : List Char :=
  formDecode (Utf8.encode p.name)

/-- The parameter that holds a query text. -/
def Parameter.query (value : List Char) : Parameter :=
  ⟨queryParameter, some value⟩

/-- The target of a request: a path and its parameters. -/
def target (path : List Char) (parameters : List Parameter) : List Char :=
  '/' :: path ++ '?' :: ['&'].intercalate (parameters.map Parameter.chars)

/-! ## What an address makes of a target -/

/-- The bytes of a part of a query, as the address at the site has them. -/
def wire (cs : List Char) : List UInt8 :=
  (Utf8.encode (escapeBraces cs)).flatMap Url.queryByte

@[simp] theorem escapeBraces_append (xs ys : List Char) :
    escapeBraces (xs ++ ys) = escapeBraces xs ++ escapeBraces ys := List.flatMap_append

@[simp] theorem wire_nil : wire [] = [] := rfl

@[simp] theorem wire_append (xs ys : List Char) : wire (xs ++ ys) = wire xs ++ wire ys := by
  simp [wire]

theorem wire_cons (c : Char) (cs : List Char) : wire (c :: cs) = wire [c] ++ wire cs :=
  wire_append [c] cs

/-- Parts of a query are joined as they were. -/
theorem wire_intercalate : ∀ pieces : List (List Char),
    wire (['&'].intercalate pieces) = [0x26].intercalate (pieces.map wire)
  | [] => rfl
  | [piece] => by simp
  | piece :: next :: pieces => by
    have ih := wire_intercalate (next :: pieces)
    have hsep : wire ['&'] = [0x26] := by decide +kernel
    rw [List.intercalate_cons_cons, wire_append, wire_append, ih, hsep]
    simp only [List.map_cons, List.intercalate_cons_cons]

/-- A character that is no brace is left alone. -/
theorem escapeBrace_of_ne {c : Char} (hopen : c ≠ '\x7b') (hclose : c ≠ '\x7d') :
    escapeBrace c = [c] := by
  unfold escapeBrace
  split
  · exact absurd rfl hopen
  · exact absurd rfl hclose
  · rfl

/-- What takes the place of a character is the character, which is no brace then, or an escape. -/
theorem mem_escapeBrace {c d : Char} (h : d ∈ escapeBrace c) :
    (d = c ∧ c ≠ '\x7b' ∧ c ≠ '\x7d') ∨ d ∈ ['%', '7', 'B', 'D'] := by
  by_cases hopen : c = '\x7b'
  · subst hopen
    have hescape : escapeBrace '\x7b' ⊆ ['%', '7', 'B', 'D'] := by decide
    exact .inr (hescape h)
  by_cases hclose : c = '\x7d'
  · subst hclose
    have hescape : escapeBrace '\x7d' ⊆ ['%', '7', 'B', 'D'] := by decide
    exact .inr (hescape h)
  rw [escapeBrace_of_ne hopen hclose] at h
  exact .inl ⟨List.mem_singleton.mp h, hopen, hclose⟩

/-- Escaping braces brings in nothing but the characters of two escapes. -/
theorem mem_escapeBraces {c : Char} {cs : List Char} (h : c ∈ escapeBraces cs) :
    c ∈ cs ∨ c = '%' ∨ c = '7' ∨ c = 'B' ∨ c = 'D' := by
  obtain ⟨d, hd, hc⟩ := List.mem_flatMap.mp h
  rcases mem_escapeBrace hc with ⟨rfl, -⟩ | hescape
  · exact .inl hd
  · exact .inr (by simpa using hescape)

/-- A separator in the bytes was a separator in the text. -/
theorem mem_of_mem_wire {b : UInt8} (hb : b = 0x26 ∨ b = 0x3D) {cs : List Char} (h : b ∈ wire cs) :
    Char.ofNat b.toNat ∈ cs := by
  obtain ⟨byte, hbyte, hquery⟩ := List.mem_flatMap.mp h
  have heq : b = byte := by
    refine Url.mem_queryByte ?_ ?_ hquery <;> rcases hb with rfl | rfl <;> decide
  subst heq
  obtain ⟨c, hc, hencode⟩ := List.mem_flatMap.mp hbyte
  have hsmall : b.toNat < 128 := by rcases hb with rfl | rfl <;> decide
  have hchar := Utf8.ofNat_of_mem_encodeChar hsmall hencode
  rw [hchar]
  refine (mem_escapeBraces hc).resolve_right ?_
  rw [← hchar]
  rcases hb with rfl | rfl <;> decide

/-! ### Plain parts -/

theorem isAscii_of_isPlain {c : Char} (h : isPlain c = true) : c.toNat < 128 := by
  have hcodes : (65 ≤ c.toNat ∧ c.toNat ≤ 90 ∨ 97 ≤ c.toNat ∧ c.toNat ≤ 122 ∨
      48 ≤ c.toNat ∧ c.toNat ≤ 57) ∨ c = '-' ∨ c = '.' ∨ c = '_' ∨ c = '~' ∨ c = '%' := by
    simpa [isPlain, Char.isAlphanum, Char.isAlpha, Char.isUpper, Char.isLower, Char.isDigit,
      UInt32.le_iff_toNat_le, or_assoc] using h
  rcases hcodes with hcodes | rfl | rfl | rfl | rfl | rfl
  · omega
  all_goals decide

theorem ne_of_isPlain {c d : Char} (h : isPlain c = true) (hd : isPlain d = false) : c ≠ d := by
  rintro rfl
  exact absurd h (Bool.eq_false_iff.mp hd)

theorem not_trimmed_of_isPlain {c : Char} (h : isPlain c = true) : Url.isTrimmed c = false :=
  @forall_ascii (fun c => isPlain c = true → Url.isTrimmed c = false) (by decide) c
    (isAscii_of_isPlain h) h

/-- An address keeps a plain character as it is. -/
theorem wire_of_isPlain {c : Char} (h : isPlain c = true) : wire [c] = Utf8.encode [c] :=
  @forall_ascii (fun c => isPlain c = true → wire [c] = Utf8.encode [c]) (by decide +kernel) c
    (isAscii_of_isPlain h) h

theorem wire_of_plain : ∀ {cs : List Char}, (∀ c ∈ cs, isPlain c = true) → wire cs = Utf8.encode cs
  | [], _ => rfl
  | c :: cs, h => by
    rw [wire_cons, wire_of_isPlain (h c List.mem_cons_self),
      wire_of_plain fun d hd => h d (List.mem_cons_of_mem c hd), ← Utf8.encode_append]
    rfl

/-! ### Written texts -/

theorem hexDigit_ne {c : Char} (h : (hexDigit? c).isSome = true) : c ≠ '\x7b' ∧ c ≠ '\x7d' := by
  constructor <;> rintro rfl <;> exact absurd h (by decide)

theorem escapeBraces_escape {high low : Char} {n : Nat} (h : hexPair? high low = some n) :
    escapeBraces ['%', high, low] = ['%', high, low] := by
  obtain ⟨hh, hl⟩ := hexPair?_eq_some h
  have hpercent : escapeBrace '%' = ['%'] := rfl
  simp [escapeBraces, hpercent, escapeBrace_of_ne (hexDigit_ne hh).1 (hexDigit_ne hh).2,
    escapeBrace_of_ne (hexDigit_ne hl).1 (hexDigit_ne hl).2]

/-- Escapes spell their bytes. -/
theorem Escapes.spells {cs : List Char} {bytes : List UInt8} (h : Escapes cs bytes) :
    Spells (Utf8.encode (escapeBraces cs)) bytes := by
  induction h with
  | nil => exact .nil
  | @cons b high low cs bytes hh hl _ ih =>
    have hd := hexPair?_of_digits (UInt8.toNat_lt _) hh hl
    rw [show '%' :: high :: low :: cs = ['%', high, low] ++ cs from rfl, escapeBraces_append,
      Utf8.encode_append, escapeBraces_escape hd, encode_escape hd]
    exact .escape hd ih

/-- A character that may be left as it is spells its bytes. -/
theorem spells_raw {c : Char} (h : isRaw c = true) :
    Spells (Utf8.encode (escapeBrace c)) (String.utf8EncodeChar c) := by
  by_cases hopen : c = '\x7b'
  · subst hopen
    exact @Spells.escape '7' 'B' 0x7B [] [] (by decide) .nil
  by_cases hclose : c = '\x7d'
  · subst hclose
    exact @Spells.escape '7' 'D' 0x7D [] [] (by decide) .nil
  rw [escapeBrace_of_ne hopen hclose, Utf8.encode_cons, Utf8.encode_nil, List.append_nil]
  refine spells_self fun b hb => ?_
  constructor <;> rintro rfl <;> rw [← Utf8.ofNat_of_mem_encodeChar (by decide) hb] at h <;>
    exact absurd h (by decide)

/-- **A written text** spells its bytes, once its braces are escaped. -/
theorem Writes.spells {value text : List Char} (h : Writes value text) :
    Spells (Utf8.encode (escapeBraces value)) (Utf8.encode text) := by
  induction h with
  | nil => exact .nil
  | escaped bytes _ ih =>
    rw [escapeBraces_append, Utf8.encode_append, Utf8.encode_cons]
    exact bytes.spells.append ih
  | space _ ih => exact .plus ih
  | @raw c value text raw _ ih =>
    rw [show c :: value = [c] ++ value from rfl, escapeBraces_append, Utf8.encode_append,
      Utf8.encode_cons, show escapeBraces [c] = escapeBrace c from List.append_nil _]
    exact (spells_raw raw).append ih

/-- A written text is read from the query of an address. -/
theorem Writes.formDecode_wire {value text : List Char} (h : Writes value text) :
    formDecode (wire value) = text :=
  h.spells.queryBytes.formDecode_eq

/-! ## Parameters -/

/-- A character that ends neither the parameter nor the query it stands in. -/
def Stays (c : Char) : Prop :=
  c ≠ '&' ∧ c ≠ '#' ∧ Url.isTrimmed c = false

theorem stays_of_isPlain {c : Char} (h : isPlain c = true) : Stays c :=
  ⟨ne_of_isPlain h (by decide), ne_of_isPlain h (by decide), not_trimmed_of_isPlain h⟩

theorem stays_of_isRaw {c : Char} (h : isRaw c = true) : Stays c := by
  simp only [isRaw, isControl, Bool.and_eq_true, Bool.not_eq_true', Bool.or_eq_false_iff,
    decide_eq_false_iff_not, bne_iff_ne] at h
  obtain ⟨⟨⟨⟨⟨⟨hblank, hcontrol, -⟩, -⟩, hnumber⟩, -⟩, hamp⟩, -⟩ := h
  refine ⟨hamp, hnumber, decide_eq_false fun hle => ?_⟩
  have hspace : c.toNat = 0x20 := by omega
  exact absurd hblank (by simp [isBlank, blankCodes, hspace])

theorem Escapes.stays {cs : List Char} {bytes : List UInt8} (h : Escapes cs bytes) :
    ∀ c ∈ cs, Stays c := by
  induction h with
  | nil => exact fun _ hc => absurd hc List.not_mem_nil
  | cons hh hl _ ih =>
    obtain ⟨hhigh, hlow⟩ := hexPair?_eq_some (hexPair?_of_digits (UInt8.toNat_lt _) hh hl)
    have hdigit : ∀ {d : Char}, (hexDigit? d).isSome = true → Stays d := fun hd =>
      stays_of_isPlain (by simp [isPlain, isAlphanum_of_hexDigit? hd])
    simp only [List.forall_mem_cons]
    exact ⟨stays_of_isPlain (by decide), hdigit hhigh, hdigit hlow, ih⟩

theorem Writes.stays {value text : List Char} (h : Writes value text) : ∀ c ∈ value, Stays c := by
  induction h with
  | nil => exact fun _ hc => absurd hc List.not_mem_nil
  | escaped bytes _ ih => exact fun c hc => (List.mem_append.mp hc).elim (bytes.stays c) (ih c)
  | space _ ih =>
    simp only [List.forall_mem_cons]
    exact ⟨⟨by decide, by decide, by decide⟩, ih⟩
  | raw raw _ ih =>
    simp only [List.forall_mem_cons]
    exact ⟨stays_of_isRaw raw, ih⟩

theorem Parameter.stays_of {p : Parameter} (hname : ∀ c ∈ p.name, isPlain c = true)
    (hvalue : ∀ v ∈ p.value, ∀ c ∈ v, Stays c) : ∀ c ∈ p.chars, Stays c := by
  intro c hc
  rcases List.mem_append.mp hc with hc | hc
  · exact stays_of_isPlain (hname c hc)
  · cases hv : p.value with
    | none => simp [hv] at hc
    | some v =>
      simp only [hv, Option.elim_some, List.mem_cons] at hc
      rcases hc with rfl | hc
      · exact ⟨by decide, by decide, by decide⟩
      · exact hvalue v hv c hc

theorem Parameter.isPlain_name {p : Parameter} (h : p.plain = true) :
    ∀ c ∈ p.name, isPlain c = true :=
  List.all_eq_true.mp (Bool.and_eq_true_iff.mp h).1

theorem Parameter.stays_of_plain {p : Parameter} (h : p.plain = true) : ∀ c ∈ p.chars, Stays c := by
  refine stays_of (isPlain_name h) fun v hv c hc => stays_of_isPlain ?_
  have hvalue := (Bool.and_eq_true_iff.mp h).2
  rw [show p.value = some v from hv] at hvalue
  exact List.all_eq_true.mp hvalue c hc

theorem isPlain_queryParameter : ∀ c ∈ queryParameter, isPlain c = true :=
  List.all_eq_true.mp (by decide)

theorem Writes.stays_query {value text : List Char} (h : Writes value text) :
    ∀ c ∈ (Parameter.query value).chars, Stays c := by
  refine Parameter.stays_of isPlain_queryParameter fun v hv => ?_
  obtain rfl : value = v := Option.some.inj hv
  exact h.stays

/-- A parameter is read as the name it denotes and what its value denotes. -/
theorem formPair_wire {p : Parameter} (h : ∀ c ∈ p.name, isPlain c = true) :
    formPair (wire p.chars) = (p.decodedName, formDecode (wire (p.value.getD []))) := by
  have hname : ∀ b ∈ wire p.name, (b != 0x3D) = true := by
    intro b hb
    rw [bne_iff_ne]
    rintro rfl
    exact ne_of_isPlain (h _ (mem_of_mem_wire (.inr rfl) hb)) (by decide) rfl
  have hequals : wire ['='] = [0x3D] := by decide +kernel
  unfold formPair Parameter.chars Parameter.decodedName
  rw [wire_append, List.takeWhile_append_of_pos hname, List.dropWhile_append_of_pos hname,
    ← wire_of_plain h]
  cases p.value with
  | none => simp
  | some v =>
    rw [Option.elim_some, wire_cons, hequals, List.singleton_append,
      List.takeWhile_cons_of_neg (by decide), List.dropWhile_cons_of_neg (by decide)]
    simp

section Parameters

variable {before after : List Parameter} {value text : List Char}

/-- The parameters of a target, one of which holds a query text. -/
def parameters (before : List Parameter) (value : List Char) (after : List Parameter) :
    List Parameter :=
  before ++ .query value :: after

theorem stays_parameters (hbefore : ∀ p ∈ before, p.plain = true)
    (hafter : ∀ p ∈ after, p.plain = true) (h : Writes value text) :
    ∀ p ∈ parameters before value after, ∀ c ∈ p.chars, Stays c := by
  intro p hp
  rcases List.mem_append.mp hp with hp | hp
  · exact Parameter.stays_of_plain (hbefore p hp)
  rcases List.mem_cons.mp hp with rfl | hp
  · exact h.stays_query
  · exact Parameter.stays_of_plain (hafter p hp)

/-- The pairs of the query are those of its parameters that are not empty. -/
theorem formPairs_wire {ps : List Parameter} (hne : ps ≠ [])
    (hps : ∀ p ∈ ps, ∀ c ∈ p.chars, Stays c) :
    formPairs (wire (['&'].intercalate (ps.map Parameter.chars))) =
      ((ps.map fun p => wire p.chars).filter (!·.isEmpty)).map formPair := by
  unfold formPairs
  rw [wire_intercalate, List.map_map, splitAt_intercalate (by simpa using hne)]
  · rfl
  intro piece hpiece hamp
  obtain ⟨p, hp, rfl⟩ := List.mem_map.mp hpiece
  exact (hps p hp _ (mem_of_mem_wire (.inl rfl) hamp)).1 rfl

/-- **The first parameter named `query`** gives the text it writes. -/
theorem parameter?_wire (hbefore : ∀ p ∈ before, p.plain = true ∧ p.decodedName ≠ queryParameter)
    (hafter : ∀ p ∈ after, p.plain = true) (h : Writes value text) :
    parameter? queryParameter
      (wire (['&'].intercalate ((parameters before value after).map Parameter.chars))) =
        some text := by
  have hstays := stays_parameters (fun p hp => (hbefore p hp).1) hafter h
  have hearlier : ∀ pair ∈ ((before.map fun p => wire p.chars).filter (!·.isEmpty)).map formPair,
      ¬ (pair.1 == queryParameter) = true := by
    intro pair hpair
    obtain ⟨bytes, hbytes, rfl⟩ := List.mem_map.mp hpair
    obtain ⟨p, hp, rfl⟩ := List.mem_map.mp (List.mem_filter.mp hbytes).1
    rw [formPair_wire (Parameter.isPlain_name (hbefore p hp).1)]
    simpa using (hbefore p hp).2
  have hquery : formPair (wire (Parameter.query value).chars) = (queryParameter, text) := by
    rw [formPair_wire isPlain_queryParameter]
    have hname : formDecode (Utf8.encode queryParameter) = queryParameter := by decide +kernel
    exact Prod.ext hname h.formDecode_wire
  unfold parameter?
  rw [formPairs_wire (by simp [parameters]) hstays]
  have hname : wire queryParameter ≠ [] := by decide +kernel
  have hkept : (!(wire (Parameter.query value).chars).isEmpty) = true := by
    rw [Parameter.chars, wire_append]
    simp [Parameter.query, hname]
  rw [parameters, List.map_append, List.map_cons, List.filter_append, List.filter_cons,
    if_pos hkept, List.map_append, List.map_cons, hquery, List.find?_append,
    List.find?_eq_none.mpr hearlier, Option.none_or, List.find?_cons, beq_self_eq_true]
  rfl

end Parameters

/-! ## Targets -/

section Targets

variable {path : List Char} {before after : List Parameter} {value text : List Char}

/-- A character that the path of an address keeps. -/
def isPath (c : Char) : Bool :=
  isPlain c || c == '/'

theorem path_spec {c : Char} (h : isPath c = true) :
    c ≠ '?' ∧ c ≠ '#' ∧ Url.isTrimmed c = false := by
  unfold isPath at h
  rcases Bool.or_eq_true_iff.mp h with h | h
  · exact ⟨ne_of_isPlain h (by decide), (stays_of_isPlain h).2⟩
  · rw [beq_iff_eq.mp h]
    exact ⟨by decide, by decide, by decide⟩

/-- What holds of the characters of a text and of escapes holds once braces are escaped. -/
theorem forall_escapeBraces {P : Char → Prop} (hescape : P '%' ∧ P '7' ∧ P 'B' ∧ P 'D')
    {cs : List Char} (h : ∀ c ∈ cs, P c) : ∀ c ∈ escapeBraces cs, P c := by
  intro c hc
  rcases mem_escapeBraces hc with hc | rfl | rfl | rfl | rfl
  · exact h c hc
  · exact hescape.1
  · exact hescape.2.1
  · exact hescape.2.2.1
  · exact hescape.2.2.2

/-- The address of a target has the bytes of its parameters as its query. -/
theorem query_target {ps : List Parameter} (hpath : ∀ c ∈ path, isPath c = true)
    (hps : ∀ p ∈ ps, ∀ c ∈ p.chars, Stays c) :
    Url.query (site.toList.drop 7 ++ escapeBraces (target path ps)) =
      .ok (some (wire (['&'].intercalate (ps.map Parameter.chars)))) := by
  have hhost : Url.checkAuthority "example.org".toList = .ok () := by cbv
  have hsite : site.toList.drop 7 = "example.org".toList := by decide +kernel
  have htarget : escapeBraces (target path ps) = '/' :: escapeBraces path ++
      '?' :: escapeBraces (['&'].intercalate (ps.map Parameter.chars)) := by
    rw [target, escapeBraces_append]
    rfl
  have hpath' : ∀ c ∈ escapeBraces path, isPath c = true :=
    forall_escapeBraces (by decide) hpath
  have hstays : ∀ c ∈ escapeBraces (['&'].intercalate (ps.map Parameter.chars)),
      c ≠ '#' ∧ Url.isTrimmed c = false := by
    refine forall_escapeBraces (by decide) fun c hc => ?_
    rcases mem_intercalate hc with rfl | ⟨piece, hpiece, hc⟩
    · decide
    · obtain ⟨p, hp, rfl⟩ := List.mem_map.mp hpiece
      exact (hps p hp c hc).2
  rw [hsite, htarget, ← List.append_assoc]
  refine Url.query_eq hhost (List.all_eq_true.mp (by decide)) (fun c hc => ?_)
    (fun hc => (hstays _ hc).1 rfl) ?_
  · exact ⟨(path_spec (hpath' c hc)).1, (path_spec (hpath' c hc)).2.1⟩
  · simp only [List.forall_mem_append, List.forall_mem_cons]
    have hsite : ∀ c ∈ "example.org".toList, ¬ Url.isTrimmed c = true :=
      List.any_eq_false.mp (by decide)
    exact ⟨⟨fun c hc => Bool.eq_false_iff.mpr (hsite c hc), by decide,
      fun c hc => (path_spec (hpath' c hc)).2.2⟩, by decide, fun c hc => (hstays c hc).2⟩

theorem queryText?_of_query {path : List Char} {bytes : List UInt8}
    (h : Url.query (site.toList.drop 7 ++ escapeBraces path) = .ok (some bytes)) :
    queryText? path = .ok (parameter? queryParameter bytes) := by
  unfold queryText?
  rw [h]
  rfl

/-- The query text of a target. -/
theorem queryText?_target (hpath : ∀ c ∈ path, isPath c = true)
    (hbefore : ∀ p ∈ before, p.plain = true ∧ p.decodedName ≠ queryParameter)
    (hafter : ∀ p ∈ after, p.plain = true) (h : Writes value text) :
    queryText? (target path (parameters before value after)) = .ok (some text) := by
  have hstays := stays_parameters (fun p hp => (hbefore p hp).1) hafter h
  rw [queryText?_of_query (query_target hpath hstays), parameter?_wire hbefore hafter h]

end Targets

/-! ## Entries -/

theorem settle_eq_some {strict : Bool} {text : String} {entry : Except Rejection Entry} {e : Entry}
    (h : settle strict text entry = .ok (some e)) : entry = .ok e := by
  cases entry with
  | ok e' => exact congrArg Except.ok (Option.some.inj (Except.ok.inj h))
  | error reason => cases strict <;> cases h

/-- The query of an entry and the complaints of its own come from its request line. -/
theorem Entry.query_ofChars? {cs : List Char} {e : Entry} (h : Entry.ofChars? cs = .ok e) :
    e.query = (queryField e.requestLine).1 ∧ ∃ time : List Char,
      e.diagnostics = (timestampField time).2 ++ (queryField e.requestLine).2 := by
  unfold Entry.ofChars? at h
  split at h
  · next line _ =>
    unfold Entry.ofLine? at h
    split at h
    · split at h
      · obtain rfl := Except.ok.inj h
        exact ⟨rfl, line.time, rfl⟩
      · cases h
    · cases h
  · cases h

/-- Whether a diagnostic is about the target of a request. -/
def Diagnostic.isTarget : Diagnostic → Bool
  | .timestamp _ => false
  | .target _ _ => true

theorem isTarget_timestampField (time : List Char) :
    ∀ d ∈ (timestampField time).2, d.isTarget = false := by
  unfold timestampField
  split
  · exact fun d hd => absurd hd List.not_mem_nil
  · exact fun d hd => List.mem_singleton.mp hd ▸ rfl

/-- **A logged query text is recovered.** However its characters are written, and whatever
parameters stand before it under other names or after it under any, the entry of a line with such a
target has the text as its query and no complaint about the target. -/
theorem extract_query {strict : Bool} {cs : List Char} {e : Entry} {r : RequestLine}
    {path value : List Char} {before after : List Parameter} {q : String}
    (hentry : extract strict cs = .ok (some e)) (hrequest : e.requestLine = some r)
    (htarget : r.path.toList = target path (parameters before value after))
    (hpath : ∀ c ∈ path, isPath c = true)
    (hbefore : ∀ p ∈ before, p.plain = true ∧ p.decodedName ≠ queryParameter)
    (hafter : ∀ p ∈ after, p.plain = true) (hvalue : Writes value q.toList) :
    e.query = some q ∧ ∀ d ∈ e.diagnostics, d.isTarget = false := by
  obtain ⟨hquery, time, hdiagnostics⟩ := Entry.query_ofChars? (settle_eq_some hentry)
  have htext : queryText? r.path.toList = .ok (some q.toList) := by
    rw [htarget]
    exact queryText?_target hpath hbefore hafter hvalue
  have hfield : queryField e.requestLine = (some q, []) := by
    rw [hrequest]
    simp only [queryField, htext, Option.map_some, String.ofList_toList]
  rw [hquery, hdiagnostics, hfield, List.append_nil]
  exact ⟨rfl, isTarget_timestampField time⟩

/-- Escapes of either case, a plus sign, braces, brackets and a letter beyond ASCII, between other
parameters. -/
theorem extract_query_mixed :
    let line := "h - u [31/Feb/2014 +0200] \"GET /sparql/v1?a=%41&%71uer&" ++
      "query=%3Fx%c3%a9+\x7b<'é>\x7d&query=%2A P\" 200 5 \"-\""
    ∃ e, extract true line.toList = .ok (some e) ∧ e.query = some "?xé \x7b<'é>\x7d" ∧
      ∀ d ∈ e.diagnostics, d.isTarget = false := by
  intro line
  let value := "%3Fx%c3%a9+\x7b<'é>\x7d".toList
  let before : List Parameter := [⟨['a'], some ['%', '4', '1']⟩, ⟨"%71uer".toList, none⟩]
  let after : List Parameter := [⟨queryParameter, some ['%', '2', 'A']⟩]
  have hmark : Escapes ['%', '3', 'F'] (String.utf8EncodeChar '?') :=
    .cons (.inl (by decide)) (.inl (by decide)) .nil
  have hletter : Escapes ['%', 'c', '3', '%', 'a', '9'] (String.utf8EncodeChar 'é') :=
    .cons (.inr (by decide)) (.inr (by decide)) (.cons (.inr (by decide)) (.inr (by decide)) .nil)
  have hvalue : Writes value "?xé \x7b<'é>\x7d".toList :=
    .escaped hmark <| .raw (by decide) <| .escaped hletter <| .space <| .raw (by decide) <|
      .raw (by decide) <| .raw (by decide) <| .raw (by decide) <| .raw (by decide) <|
      .raw (by decide) .nil
  have hrun : ((extract true line.toList).toOption.bind fun e? =>
      e?.bind fun e => e.requestLine.map (·.path.toList)) =
      some (target "sparql/v1".toList (parameters before value after)) := by
    decide +kernel
  cases he : extract true line.toList with
  | error e => rw [he] at hrun; cases hrun
  | ok e? =>
    rw [he, Except.toOption, Option.bind_some] at hrun
    obtain ⟨e, rfl, hrun⟩ := Option.bind_eq_some_iff.mp hrun
    obtain ⟨r, hr, hpath⟩ := Option.map_eq_some_iff.mp hrun
    have hsegments : ∀ c ∈ "sparql/v1".toList, isPath c = true := List.all_eq_true.mp (by decide)
    exact ⟨e, rfl, extract_query he hr hpath hsegments (by decide +kernel) (by decide) hvalue⟩

end LinkedQueries.AccessLog
