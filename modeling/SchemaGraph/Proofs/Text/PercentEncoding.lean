import SchemaGraph.Url.Host

/-!
# Percent encoding

`Text.percentEncode` writes a text with the unreserved characters of RFC 3986 as they are and every
other octet as an escape. Read `percentDecode_percentEncode` first: decoding gives back the text,
whatever its characters are. It rests on `decodeOctets_octets`, which says the same of UTF-8.
-/

namespace SchemaGraph.Text

section Utf8

variable {rest : List Nat} {state : Partial} {octet : Nat}

/-- A first octet that leaves a character open. -/
theorem decodeFrom_lead (h : lead octet = .more state) :
    decodeFrom none (octet :: rest) = decodeFrom (some state) rest := by
  rw [decodeFrom, startChar, h]
  rfl

/-- The last octet of a character. -/
theorem decodeFrom_last {bits low high : Nat} (hlow : low ≤ octet) (hhigh : octet ≤ high) :
    decodeFrom (some ⟨bits, 1, low, high⟩) (octet :: rest) =
      Char.ofNat (bits * 64 + (octet - 0x80)) :: decodeFrom none rest := by
  rw [decodeFrom, if_pos ⟨hlow, hhigh⟩]
  rfl

/-- An octet of a character before the last one. -/
theorem decodeFrom_next {bits owed low high : Nat} (hlow : low ≤ octet) (hhigh : octet ≤ high) :
    decodeFrom (some ⟨bits, owed + 2, low, high⟩) (octet :: rest) =
      decodeFrom (some ⟨bits * 64 + (octet - 0x80), owed + 1, 0x80, 0xBF⟩) rest := by
  rw [decodeFrom, if_pos ⟨hlow, hhigh⟩]
  rfl

/-- The first of two octets. -/
theorem lead_two {bits : Nat} (hlow : 2 ≤ bits) (hhigh : bits < 32) :
    lead (0xC0 + bits) = .more ⟨bits, 1, 0x80, 0xBF⟩ := by
  have hbits : 0xC0 + bits - 0xC0 = bits := by omega
  rw [lead, if_neg (by omega), if_neg (by omega), if_pos (by omega), hbits]

/-- The first of three octets. The range of the second one leaves out what two octets can write,
and the surrogates. -/
theorem lead_three {bits : Nat} (h : bits < 16) :
    lead (0xE0 + bits) =
      .more ⟨bits, 2, if bits = 0 then 0xA0 else 0x80, if bits = 13 then 0x9F else 0xBF⟩ := by
  have hbits : 0xE0 + bits - 0xE0 = bits := by omega
  rw [lead, if_neg (by omega), if_neg (by omega), if_neg (by omega)]
  by_cases hzero : bits = 0
  · subst hzero
    rfl
  · rw [if_neg (by omega), if_neg hzero]
    by_cases hsurrogate : bits = 13
    · subst hsurrogate
      rfl
    · rw [if_neg (by omega), if_pos (by omega), if_neg hsurrogate, hbits]

/-- The first of four octets. The range of the second one leaves out what three octets can write,
and what is beyond the last character. -/
theorem lead_four {bits : Nat} (h : bits ≤ 4) :
    lead (0xF0 + bits) =
      .more ⟨bits, 3, if bits = 0 then 0x90 else 0x80, if bits = 4 then 0x8F else 0xBF⟩ := by
  obtain rfl | rfl | rfl | rfl | rfl :
      bits = 0 ∨ bits = 1 ∨ bits = 2 ∨ bits = 3 ∨ bits = 4 := by omega
  all_goals rfl

/-- The octets of a character are read back as this character. -/
theorem decodeFrom_charOctets (c : Char) (rest : List Nat) :
    decodeFrom none (charOctets c ++ rest) = c :: decodeFrom none rest := by
  have hvalid : c.toNat < 0xD800 ∨ 0xDFFF < c.toNat ∧ c.toNat < 0x110000 := c.valid
  have hback (code : Nat) (h : code = c.toNat) : Char.ofNat code = c := h ▸ Char.ofNat_toNat c
  unfold charOctets
  by_cases hone : c.toNat < 0x80
  · rw [if_pos hone, List.singleton_append, decodeFrom, startChar, lead, if_pos hone]
    exact congrArg (· :: _) (Char.ofNat_toNat c)
  rw [if_neg hone]
  by_cases htwo : c.toNat < 0x800
  · rw [if_pos htwo]
    simp only [List.cons_append, List.nil_append]
    rw [decodeFrom_lead (lead_two (by omega) (by omega)),
      decodeFrom_last (by omega) (by omega), hback _ (by omega)]
  rw [if_neg htwo]
  by_cases hthree : c.toNat < 0x10000
  · rw [if_pos hthree]
    simp only [List.cons_append, List.nil_append]
    rw [decodeFrom_lead (lead_three (by omega)),
      decodeFrom_next (by split <;> omega) (by split <;> omega),
      decodeFrom_last (by omega) (by omega), hback _ (by omega)]
  · rw [if_neg hthree]
    simp only [List.cons_append, List.nil_append]
    rw [decodeFrom_lead (lead_four (by omega)),
      decodeFrom_next (by split <;> omega) (by split <;> omega),
      decodeFrom_next (by omega) (by omega), decodeFrom_last (by omega) (by omega),
      hback _ (by omega)]

/-- The octets of a text are read back as this text. -/
theorem decodeOctets_octets (text : List Char) : decodeOctets (octets text) = text := by
  rw [decodeOctets, octets]
  induction text with
  | nil => rfl
  | cons c text ih => rw [List.flatMap_cons, decodeFrom_charOctets, ih]

/-- Octets have eight bits, and one below 128 is a character by itself. -/
theorem bounds_of_mem_charOctets {c : Char} (h : octet ∈ charOctets c) :
    octet < 256 ∧ (octet < 0x80 → octet = c.toNat) := by
  have hvalid : c.toNat < 0xD800 ∨ 0xDFFF < c.toNat ∧ c.toNat < 0x110000 := c.valid
  simp only [charOctets] at h
  split at h
  · obtain rfl := List.mem_singleton.1 h
    omega
  · split at h
    · simp only [List.mem_cons, List.not_mem_nil, or_false] at h
      omega
    · split at h
      · simp only [List.mem_cons, List.not_mem_nil, or_false] at h
        omega
      · simp only [List.mem_cons, List.not_mem_nil, or_false] at h
        omega

end Utf8

/-- The octets of the unreserved characters: letters, digits, hyphen, point, underscore and
tilde. -/
def isUnreserved (octet : Nat) : Bool :=
  (0x30 ≤ octet && octet ≤ 0x39) || (0x41 ≤ octet && octet ≤ 0x5A) ||
    (0x61 ≤ octet && octet ≤ 0x7A) || [0x2D, 0x2E, 0x5F, 0x7E].contains octet

/-- An octet as a character, if it is unreserved, or as an escape. -/
def writeOctet (octet : Nat) : List Char :=
  if isUnreserved octet then [Char.ofNat octet] else Url.escapeOctet octet

/-- Write the octets of a text with escapes. -/
def percentEncode (text : List Char) : List Char :=
  (octets text).flatMap writeOctet

/-- A code below 128 is the code of a character. -/
theorem toNat_ofNat_ascii {code : Nat} (h : code < 0x80) : (Char.ofNat code).toNat = code := by
  have hvalid : code.isValidChar := .inl (by omega)
  rw [Char.ofNat, dif_pos hvalid]
  rfl

/-- The characters below 128 are their own octets. -/
theorem charOctets_ascii {code : Nat} (h : code < 0x80) :
    charOctets (Char.ofNat code) = [code] := by
  simp only [charOctets, toNat_ofNat_ascii h]
  exact if_pos h

/-- An unreserved octet is below 128 and no percent sign. -/
theorem isUnreserved_bounds {octet : Nat} (h : isUnreserved octet) :
    octet < 0x80 ∧ octet ≠ 0x25 := by
  simp only [isUnreserved, Bool.or_eq_true, Bool.and_eq_true, decide_eq_true_eq,
    List.contains_iff_mem, List.mem_cons, List.not_mem_nil, or_false] at h
  omega

/-- The code of a hexadecimal digit. -/
theorem upperHexDigit_cases {value : Nat} (h : value < 16) :
    ∃ code, upperHexDigit value = Char.ofNat code ∧
      (value < 10 ∧ code = 0x30 + value ∨ 10 ≤ value ∧ code = 0x41 + value - 10) := by
  unfold upperHexDigit
  split
  · next hdigit => exact ⟨0x30 + value, rfl, .inl ⟨hdigit, rfl⟩⟩
  · next hletter => exact ⟨0x41 + value - 10, rfl, .inr ⟨by omega, rfl⟩⟩

/-- Hexadecimal digits are read back as their value. -/
theorem hexOctet?_upperHexDigit {value : Nat} (h : value < 16) :
    ∃ code, charOctets (upperHexDigit value) = [code] ∧ hexOctet? code = some value := by
  obtain ⟨code, hdigit, hcode⟩ := upperHexDigit_cases h
  refine ⟨code, hdigit ▸ charOctets_ascii (by omega), ?_⟩
  rw [hexOctet?]
  obtain ⟨hvalue, rfl⟩ | ⟨hvalue, rfl⟩ := hcode
  · rw [if_pos (by omega)]
    exact congrArg some (by omega)
  · rw [if_neg (by omega), if_pos (by omega)]
    exact congrArg some (by omega)

/-- An octet that is no percent sign is kept. -/
theorem unescapeOctets_cons_of_ne {octet : Nat} (h : octet ≠ 0x25) (rest : List Nat) :
    unescapeOctets (octet :: rest) = octet :: unescapeOctets rest := by
  rw [unescapeOctets]
  rintro high low rest' rfl
  exact absurd rfl h

/-- An octet is read back from what is written for it. -/
theorem unescapeOctets_writeOctet {octet : Nat} (h : octet < 256) (rest : List Nat) :
    unescapeOctets (octets (writeOctet octet) ++ rest) = octet :: unescapeOctets rest := by
  unfold writeOctet
  split
  · next hunreserved =>
      obtain ⟨hascii, hpercent⟩ := isUnreserved_bounds hunreserved
      have hoctets : octets [Char.ofNat octet] = [octet] := by
        rw [octets, List.flatMap_singleton, charOctets_ascii hascii]
      rw [hoctets, List.singleton_append, unescapeOctets_cons_of_ne hpercent]
  · have hdiv : octet / 16 < 16 := by omega
    have hmod : octet % 16 < 16 := by omega
    obtain ⟨high, hhigh, hhighValue⟩ := hexOctet?_upperHexDigit hdiv
    obtain ⟨low, hlow, hlowValue⟩ := hexOctet?_upperHexDigit hmod
    have hoctets : octets (Url.escapeOctet octet) = [0x25, high, low] := by
      simp only [Url.escapeOctet, octets, List.flatMap_cons, List.flatMap_nil, hhigh, hlow]
      rfl
    rw [hoctets]
    simp only [List.cons_append, List.nil_append, unescapeOctets, hhighValue, hlowValue]
    exact congrArg (· :: _) (by omega)

/-- What stands for the octets of a text is read back, whatever comes behind it. -/
theorem unescapeOctets_percentEncode (text : List Char) (rest : List Nat) :
    unescapeOctets (octets (percentEncode text) ++ rest) = octets text ++ unescapeOctets rest := by
  have hbound : ∀ octet ∈ octets text, octet < 256 := by
    intro octet hoctet
    obtain ⟨c, _, hc⟩ := List.mem_flatMap.1 hoctet
    exact (bounds_of_mem_charOctets hc).1
  rw [percentEncode]
  generalize octets text = all at hbound
  induction all with
  | nil => rfl
  | cons octet all ih =>
      obtain ⟨hoctet, hall⟩ := List.forall_mem_cons.1 hbound
      have hsplit : octets ((octet :: all).flatMap writeOctet) =
          octets (writeOctet octet) ++ octets (all.flatMap writeOctet) := by
        rw [List.flatMap_cons, octets, List.flatMap_append]
        rfl
      rw [hsplit, List.append_assoc, unescapeOctets_writeOctet hoctet, ih hall, List.cons_append]

/-- A text is read back from its percent encoding. -/
theorem percentDecode_percentEncode (text : List Char) :
    percentDecode (percentEncode text) = text := by
  have hoctets := unescapeOctets_percentEncode text []
  rw [List.append_nil, unescapeOctets, List.append_nil] at hoctets
  rw [percentDecode, hoctets, decodeOctets_octets]

/-- What is written for an octet is a percent sign, a hexadecimal digit, or the octet itself. -/
theorem mem_writeOctet {octet : Nat} {c : Char} (hoctet : octet < 256)
    (h : c ∈ writeOctet octet) :
    c = '%' ∨ (0x30 ≤ c.toNat ∧ c.toNat ≤ 0x46) ∨ isUnreserved octet ∧ c.toNat = octet := by
  have hdigit (value : Nat) (hvalue : value < 16) :
      0x30 ≤ (upperHexDigit value).toNat ∧ (upperHexDigit value).toNat ≤ 0x46 := by
    obtain ⟨code, hdigit, hcode⟩ := upperHexDigit_cases hvalue
    rw [hdigit, toNat_ofNat_ascii (by omega)]
    omega
  unfold writeOctet at h
  split at h
  · next hunreserved =>
      obtain rfl := List.mem_singleton.1 h
      exact .inr (.inr ⟨hunreserved, toNat_ofNat_ascii (isUnreserved_bounds hunreserved).1⟩)
  · simp only [Url.escapeOctet, List.mem_cons, List.not_mem_nil, or_false] at h
    obtain rfl | rfl | rfl := h
    · exact .inl rfl
    · exact .inr (.inl (hdigit _ (by omega)))
    · exact .inr (.inl (hdigit _ (by omega)))

/-- No slash is written. -/
theorem slash_notMem_percentEncode (text : List Char) : '/' ∉ percentEncode text := by
  intro h
  obtain ⟨octet, hoctet, hslash⟩ := List.mem_flatMap.1 h
  obtain ⟨c, _, hc⟩ := List.mem_flatMap.1 hoctet
  obtain hpercent | hdigit | ⟨hunreserved, heq⟩ :=
    mem_writeOctet (bounds_of_mem_charOctets hc).1 hslash
  · cases hpercent
  · exact absurd hdigit.1 (by decide)
  · subst heq
    cases hunreserved

/-- A tilde is written for a tilde only. -/
theorem tilde_mem_of_mem_percentEncode {text : List Char} (h : '~' ∈ percentEncode text) :
    '~' ∈ text := by
  obtain ⟨octet, hoctet, htilde⟩ := List.mem_flatMap.1 h
  obtain ⟨c, hmem, hc⟩ := List.mem_flatMap.1 hoctet
  obtain ⟨hbound, hascii⟩ := bounds_of_mem_charOctets hc
  obtain hpercent | hdigit | ⟨_, heq⟩ := mem_writeOctet hbound htilde
  · cases hpercent
  · exact absurd hdigit.2 (by decide)
  · have hcode : c.toNat = '~'.toNat := by
      rw [heq]
      exact (hascii (heq ▸ by decide)).symm
    rwa [← Char.toNat_inj.1 hcode]

end SchemaGraph.Text
