import Mathlib.Data.List.DropRight
import Mathlib.Data.List.GetD
import Mathlib.Data.List.Sort
import Mathlib.Order.CompletePartialOrder
import OlcRtc.Lib.Checks
import OlcRtc.Lib.Uri

/-!
# Routing rules

A rule says what becomes of connections to a domain, to a domain with everything below it, to an
address or to a range of addresses.  `RoutingRule.create` stores rules in a normal form, and
`getEnabled` sorts them by a number, their `specificity`.  `routing` writes them in that order into
the configuration of Xray, where the first rule that matches decides.

The bits of an address are counted from the first one of the network.  `clearBit` is what
`normalizeCidr` does bit by bit; `bit_mask` says what remains.

* **`cidr_canonical`**: two ranges are normalised to the same text exactly if they are the same.
* **`most_specific_first`**: the first rule of the configuration that matches a target is contained
  in all others that do, although `specificity` compares lengths of texts and of network parts.

The platform knows IPv6 addresses as texts, and the ASCII form of domain names.
-/

namespace OlcRtc.Client

/-! ## Addresses -/

def ipv4Mapped (bytes : Bytes) : Bool := bytes.take 12 = List.replicate 10 0 ++ [255, 255]

/-- `InetAddress`: the four bytes of an `Inet4Address` or the sixteen of an `Inet6Address`, which
never stands for an IPv4 address. -/
@[ext] structure InetAddress where
  address : Bytes
  ok : address.length = 4 ∨ address.length = 16 ∧ ipv4Mapped address = false
deriving DecidableEq

def getByAddress (bytes : Bytes) : Except String InetAddress :=
  if h4 : bytes.length = 4 then .ok ⟨bytes, .inl h4⟩
  else if h16 : bytes.length = 16 then
    if hm : ipv4Mapped bytes = true then .ok ⟨bytes.drop 12, .inl (by simp [h16])⟩
    else .ok ⟨bytes, .inr ⟨h16, by simpa using hm⟩⟩
  else .error "addr is of illegal length"

lemma InetAddress.getByAddress_address (a : InetAddress) : getByAddress a.address = .ok a := by
  rcases a with ⟨bytes, h | ⟨h, hm⟩⟩
  · rw [getByAddress, dif_pos h]
  · rw [getByAddress, dif_neg (by rw [h]; decide), dif_pos h, dif_neg (by simp [hm])]

/-- What the platform knows about addresses and domains. -/
structure AddressPlatform extends CharTables where
  /-- `InetAddress.getByName` for a text with a colon. -/
  getByName : Text → Option InetAddress
  /-- `hostAddress` of an `Inet6Address`. -/
  inet6Text : Bytes → Text
  /-- `IDN.toASCII` with `USE_STD3_ASCII_RULES`. -/
  toASCII : Text → Option Text
  inet6Text_colon : ∀ bytes, ':' ∈ inet6Text bytes
  inet6Text_chars : ∀ bytes, ∀ c ∈ inet6Text bytes, c ≠ '%' ∧ c ≠ '/' ∧ Text.isWhitespace c = false
  inet6Text_parts : ∀ bytes, ((inet6Text bytes).splitOn '.').length ≠ 4
  getByName_inet6Text : ∀ a : InetAddress, a.address.length = 16 →
    getByName (inet6Text a.address) = some a

variable (pf : AddressPlatform)

def InetAddress.hostAddress (a : InetAddress) : Text :=
  if a.address.length = 4 then ['.'].intercalate (a.address.map fun b => decimal b.toNat)
  else pf.inet6Text a.address

def isOctet (part : Text) : Bool :=
  part != [] && decide (Text.utf16Length part ≤ 3) &&
    part.all (fun c => (pf.digit 10 c).isSome) &&
    (Text.toIntOrNull pf.toCharTables part).any (fun n => 0 ≤ n && n ≤ 255) &&
    (part == "0".toList || part.head? != some '0')

def parseAddress (value : Text) : Except String InetAddress := do
  let candidate := Text.trim value
  ensure ('%' ∉ candidate) "Scoped IP addresses are not supported"
  let ipv4 := candidate.splitOn '.'
  if ipv4.length = 4 then do
    ensure (ipv4.all (isOctet pf)) "Invalid IP address"
    getByAddress (ipv4.map fun part =>
      UInt8.ofInt ((Text.toIntOrNull pf.toCharTables part).getD 0))
  else do
    ensure (':' ∈ candidate) "Invalid IP address"
    match pf.getByName candidate with
    | none => .error "Invalid IP address"
    | some address => do
      ensure (address.address.length = 16) "Invalid IP address"
      return address

section HostAddress

variable {pf} (a : InetAddress)

lemma splitOn_hostAddress (h4 : a.address.length = 4) :
    (a.hostAddress pf).splitOn '.' = a.address.map fun b => decimal b.toNat := by
  rw [InetAddress.hostAddress, if_pos h4]
  refine List.splitOn_intercalate '.' (fun part hpart hdot => ?_) fun hnil => ?_
  · obtain ⟨b, -, rfl⟩ := List.mem_map.1 hpart
    have hdigit := Nat.isDigit_of_mem_toDigits (b := 10) (by decide) (by decide) hdot
    exact absurd hdigit (by decide)
  · rw [List.map_eq_nil_iff.1 hnil] at h4
    cases h4

lemma hostAddress_chars :
    ∀ c ∈ a.hostAddress pf, c ≠ '%' ∧ c ≠ '/' ∧ Text.isWhitespace c = false := by
  intro c hc
  by_cases h4 : a.address.length = 4
  · rcases mem_of_mem_splitOn (d := '.') hc with rfl | ⟨part, hpart, hcpart⟩
    · decide
    · rw [splitOn_hostAddress a h4] at hpart
      obtain ⟨b, -, rfl⟩ := List.mem_map.1 hpart
      have hdigit := Nat.isDigit_of_mem_toDigits (b := 10) (by decide) (by decide) hcpart
      refine ⟨?_, ?_, Text.isWhitespace_of_isAlphanum (by simp [Char.isAlphanum, hdigit])⟩ <;>
        rintro rfl <;> exact absurd hdigit (by decide)
  · rw [InetAddress.hostAddress, if_neg h4] at hc
    exact pf.inet6Text_chars _ c hc

lemma trim_hostAddress : Text.trim (a.hostAddress pf) = a.hostAddress pf :=
  Text.trim_of_forall fun c hc => (hostAddress_chars a c hc).2.2

lemma toIntOrNull_octet (b : UInt8) :
    Text.toIntOrNull pf.toCharTables (decimal b.toNat) = some (b.toNat : ℤ) :=
  Text.toIntOrNull_decimal _ (b.toNat_lt.trans (by decide))

lemma isOctet_decimal (b : UInt8) : isOctet pf (decimal b.toNat) = true := by
  have hlt := b.toNat_lt
  have hne : decimal b.toNat ≠ [] := Nat.toDigits_ne_nil
  have hlen : (decimal b.toNat).length ≤ 3 :=
    (Nat.length_toDigits_le_iff (by decide) (by decide)).2 (hlt.trans (by decide))
  have hdigits : ∀ c ∈ decimal b.toNat, c.toNat < 128 ∧ c.isDigit = true := by
    intro c hc
    have hc := Nat.isDigit_of_mem_toDigits (by decide) (by decide) hc
    rw [Char.isDigit, Bool.and_eq_true, decide_eq_true_eq, decide_eq_true_eq] at hc
    exact ⟨lt_of_le_of_lt (b := 57) hc.2 (by decide), by simpa [Char.isDigit] using hc⟩
  have hzero : decimal b.toNat = "0".toList ∨ (decimal b.toNat).head? ≠ some '0' := by
    rcases toDigits_head b.toNat with h | ⟨c, s, h, hc, -⟩
    · exact .inl h
    · exact .inr (by simp [decimal, h, hc])
  have hall : ∀ c ∈ decimal b.toNat, (pf.digit 10 c).isSome = true := by
    intro c hc
    rw [pf.digit_ten c (hdigits c hc).1, if_pos (hdigits c hc).2]
    rfl
  have hutf : Text.utf16Length (decimal b.toNat) ≤ 3 := by
    rwa [Text.utf16Length_of_forall fun c hc => (hdigits c hc).1.trans (by decide)]
  have hval : (0 : ℤ) ≤ b.toNat ∧ (b.toNat : ℤ) ≤ 255 := by
    omega
  rw [isOctet, toIntOrNull_octet]
  simpa [hne, hutf, hval] using ⟨hall, hzero⟩

/-- **An address is read back** from its text. -/
lemma parseAddress_hostAddress : parseAddress pf (a.hostAddress pf) = .ok a := by
  have hscope : '%' ∉ a.hostAddress pf := fun h => (hostAddress_chars a _ h).1 rfl
  rw [parseAddress, trim_hostAddress]
  simp only [hscope, not_false_eq_true, decide_true]
  by_cases h4 : a.address.length = 4
  · have hbytes : ∀ b : UInt8, UInt8.ofInt (b.toNat : ℤ) = b := by
      intro b
      have := b.toNat_lt
      apply UInt8.toNat_inj.1
      simp [UInt8.ofInt]
      omega
    have hmap : (a.address.map fun b => decimal b.toNat).map (fun part =>
        UInt8.ofInt ((Text.toIntOrNull pf.toCharTables part).getD 0)) = a.address := by
      simp [Function.comp_def, toIntOrNull_octet, hbytes]
    rw [splitOn_hostAddress a h4, if_pos (by simpa using h4), hmap, a.getByAddress_address]
    simp [ensure, isOctet_decimal, ok_bind]
  · have h16 : a.address.length = 16 := (a.ok.resolve_left h4).1
    have htext : a.hostAddress pf = pf.inet6Text a.address := if_neg h4
    have hcolon : ':' ∈ a.hostAddress pf := htext ▸ pf.inet6Text_colon _
    rw [if_neg (htext ▸ pf.inet6Text_parts _), htext, pf.getByName_inet6Text a h16, ← htext]
    simp [ensure, hcolon, h16, ok_bind]

end HostAddress

/-! ## Ranges of addresses -/

/-- The bit of an address, counted from the first one of the network. -/
def bit (bytes : Bytes) (i : ℕ) : Bool := (bytes.getD (i / 8) 0).toNat.testBit (7 - i % 8)

/-- One round of the loop of `normalizeCidr`. -/
def clearBit (bytes : Bytes) (i : ℕ) : Bytes :=
  bytes.modify (i / 8) fun b => b &&& ~~~((1 : UInt8) <<< UInt8.ofNat (7 - i % 8))

/-- The loop of `normalizeCidr`. -/
def mask (bytes : Bytes) (pfx : ℕ) : Bytes :=
  (List.range' pfx (bytes.length * 8 - pfx)).foldl clearBit bytes

@[ext] structure Cidr where
  address : InetAddress
  pfx : ℕ
  le : pfx ≤ address.address.length * 8

/-- The first half of `normalizeCidr`. -/
def parseCidr (value : Text) : Except String Cidr := do
  let parts := (Text.trim value).splitOn '/'
  ensure (parts.length = 2) "Invalid CIDR"
  let address ← parseAddress pf (parts.getD 0 [])
  match Text.toIntOrNull pf.toCharTables (parts.getD 1 []) with
  | none => .error "Invalid CIDR prefix"
  | some pfx =>
    if h : 0 ≤ pfx ∧ pfx ≤ (address.address.length * 8 : ℕ) then
      .ok ⟨address, pfx.toNat, Int.toNat_le.2 h.2⟩
    else .error "Invalid CIDR prefix"

def normalizeCidr (value : Text) : Except String Text := do
  let cidr ← parseCidr pf value
  let address ← getByAddress (mask cidr.address.address cidr.pfx)
  return address.hostAddress pf ++ '/' :: decimal cidr.pfx

/-- The addresses that begin with the network part of a range. -/
def Cidr.addresses (c : Cidr) : Set Bytes :=
  { x | x.length = c.address.address.length ∧ ∀ i < c.pfx, bit x i = bit c.address.address i }

section Bits

variable {x y : Bytes} {i j pfx : ℕ}

lemma bit_modify (f : UInt8 → UInt8) (h : j / 8 < x.length) : bit (x.modify (j / 8) f) i =
    if i / 8 = j / 8 then (f (x.getD (j / 8) 0)).toNat.testBit (7 - i % 8) else bit x i := by
  rw [bit, List.getD_eq_getElem?_getD, List.getElem?_modify]
  split_ifs with hij hij' hij'
  · rw [hij', List.getElem?_eq_getElem h, List.getD_eq_getElem _ _ h]
    rfl
  · exact absurd hij.symm hij'
  · exact absurd hij'.symm hij
  · rw [bit, List.getD_eq_getElem?_getD]
    cases x[i / 8]? <;> rfl

lemma bit_clearBit (h : j / 8 < x.length) : bit (clearBit x j) i = (bit x i && i != j) := by
  have hclear : ∀ k < 8, ∀ l < 8,
      (~~~((1 : UInt8) <<< UInt8.ofNat k)).toNat.testBit l = (l != k) := by decide
  rw [clearBit, bit_modify _ h]
  split_ifs with hij
  · have hne : (7 - i % 8 != 7 - j % 8) = (i != j) := by
      rw [Bool.eq_iff_iff, bne_iff_ne, bne_iff_ne]
      omega
    rw [UInt8.toNat_and, Nat.testBit_and, hclear _ (by omega) _ (by omega), hne, bit, hij]
  · have hne : i ≠ j := fun h => hij (by rw [h])
    simp [hne]

lemma exists_flip (h : j / 8 < x.length) :
    ∃ y : Bytes, y.length = x.length ∧ bit y j ≠ bit x j ∧ ∀ i < j, bit y i = bit x i := by
  have hflip : ∀ k < 8, ∀ l < 8, ((1 : UInt8) <<< UInt8.ofNat k).toNat.testBit l = (l == k) := by
    decide
  refine ⟨x.modify (j / 8) fun b => b ^^^ ((1 : UInt8) <<< UInt8.ofNat (7 - j % 8)),
    List.length_modify .., ?_, fun i hi => ?_⟩
  · rw [bit_modify _ h, if_pos rfl, UInt8.toNat_xor, Nat.testBit_xor,
      hflip _ (by omega) _ (by omega), ← bit]
    cases bit x j <;> simp
  · rw [bit_modify _ h]
    split_ifs with hij
    · have hne : (7 - i % 8 == 7 - j % 8) = false := by
        rw [beq_eq_false_iff_ne]
        omega
      rw [UInt8.toNat_xor, Nat.testBit_xor, hflip _ (by omega) _ (by omega), hne, Bool.xor_false,
        bit, hij]
    · rfl

lemma length_foldl_clearBit (is : List ℕ) : (is.foldl clearBit x).length = x.length := by
  induction is generalizing x with
  | nil => rfl
  | cons j is ih => rw [List.foldl_cons, ih, clearBit, List.length_modify]

lemma bit_foldl_clearBit : ∀ {is : List ℕ} {x : Bytes}, (∀ j ∈ is, j / 8 < x.length) →
    bit (is.foldl clearBit x) i = (bit x i && decide (i ∉ is))
  | [], x, _ => by simp
  | j :: is, x, h => by
    have hj := bit_clearBit (i := i) (h j List.mem_cons_self)
    rw [List.foldl_cons, bit_foldl_clearBit (fun k hk => ?_), hj, Bool.and_assoc]
    · by_cases hij : i = j
      · simp [hij]
      · simp [hij, bne_iff_ne.2 hij]
    · rw [clearBit, List.length_modify]
      exact h k (List.mem_cons_of_mem j hk)

lemma length_mask : (mask x pfx).length = x.length := length_foldl_clearBit _

lemma bit_of_le (h : x.length * 8 ≤ i) : bit x i = false := by
  rw [bit, List.getD_eq_default _ _ (by omega)]
  simp

/-- **The bits of the network remain**, and no other. -/
lemma bit_mask : bit (mask x pfx) i = (bit x i && decide (i < pfx)) := by
  rcases Nat.lt_or_ge i (x.length * 8) with hi | hi
  · rw [mask, bit_foldl_clearBit fun j hj => ?_]
    · have hmem : i ∉ List.range' pfx (x.length * 8 - pfx) ↔ i < pfx := by
        rw [List.mem_range'_1]
        omega
      simp only [hmem]
    · rw [List.mem_range'_1] at hj
      omega
  · rw [bit_of_le (by rwa [length_mask]), bit_of_le hi]
    rfl

lemma getD_eq_of_bit {k : ℕ} (h : ∀ i, i / 8 = k → bit x i = bit y i) :
    x.getD k 0 = y.getD k 0 := by
  apply UInt8.toNat_inj.1
  apply Nat.eq_of_testBit_eq
  intro l
  rcases Nat.lt_or_ge l 8 with hl | hl
  · have hbit := h (8 * k + (7 - l)) (by omega)
    have hdiv : (8 * k + (7 - l)) / 8 = k := by omega
    have hmod : 7 - (8 * k + (7 - l)) % 8 = l := by omega
    rwa [bit, bit, hdiv, hmod] at hbit
  · have hlt : ∀ b : UInt8, b.toNat < 2 ^ l := fun b =>
      b.toNat_lt.trans_le (Nat.pow_le_pow_right (by decide) hl)
    rw [Nat.testBit_lt_two_pow (hlt _), Nat.testBit_lt_two_pow (hlt _)]

lemma eq_of_bit (hlen : x.length = y.length) (h : ∀ i, bit x i = bit y i) : x = y := by
  apply List.ext_getElem hlen
  intro k hx hy
  have hk := getD_eq_of_bit (k := k) fun i _ => h i
  rwa [List.getD_eq_getElem _ _ hx, List.getD_eq_getElem _ _ hy] at hk

/-- Bits are only taken away, so that no IPv4 address comes about. -/
lemma ipv4Mapped_mask (h : x.length = 16) (hx : ipv4Mapped x = false) :
    ipv4Mapped (mask x pfx) = false := by
  by_contra hm
  rw [Bool.not_eq_false, ipv4Mapped, decide_eq_true_eq] at hm
  have hlast : bit (mask x pfx) 95 = true := by
    have hbyte := congrArg (fun l => l.getD 11 0) hm
    rw [List.getD_eq_getElem?_getD, List.getElem?_take_of_lt (by decide),
      ← List.getD_eq_getElem?_getD] at hbyte
    rw [bit, hbyte]
    rfl
  have hpfx : 95 < pfx := by
    rw [bit_mask, Bool.and_eq_true, decide_eq_true_eq] at hlast
    exact hlast.2
  have htake : x.take 12 = (mask x pfx).take 12 := by
    apply List.ext_getElem (by simp [length_mask])
    intro k hk hk'
    rw [List.length_take] at hk
    have hbyte := getD_eq_of_bit (x := x) (y := mask x pfx) (k := k) fun i hi => by
      rw [bit_mask, decide_eq_true (by omega), Bool.and_true]
    rw [List.getElem_take, List.getElem_take]
    rwa [List.getD_eq_getElem _ _ (by omega),
      List.getD_eq_getElem _ _ (by rw [length_mask]; omega)] at hbyte
  rw [ipv4Mapped, htake, hm, decide_eq_false_iff_not] at hx
  exact hx rfl

end Bits

namespace Cidr

variable {pf} (c c' : Cidr)

def network : InetAddress where
  address := mask c.address.address c.pfx
  ok := by
    rw [length_mask]
    exact c.address.ok.imp_right fun h => ⟨h.1, ipv4Mapped_mask h.1 h.2⟩

def normal : Cidr := ⟨c.network, c.pfx, c.le.trans_eq (by rw [network, length_mask])⟩

def text (pf : AddressPlatform) : Text := c.address.hostAddress pf ++ '/' :: decimal c.pfx

lemma normalizeCidr_eq_ok {value n : Text} :
    normalizeCidr pf value = .ok n ↔ ∃ c, parseCidr pf value = .ok c ∧ c.normal.text pf = n := by
  rw [normalizeCidr, bind_eq_ok]
  refine exists_congr fun c => and_congr_right fun _ => ?_
  have hnetwork : getByAddress (mask c.address.address c.pfx) = .ok c.network :=
    c.network.getByAddress_address
  rw [hnetwork, ok_bind]
  exact ⟨fun h => Except.ok.inj h, fun h => congrArg Except.ok h⟩

lemma pfx_le_max : c.pfx ≤ 128 := by
  have hle := c.le
  rcases c.address.ok with h | ⟨h, -⟩ <;> omega

/-- **A range is read back** from its text. -/
lemma parseCidr_text : parseCidr pf (c.text pf) = .ok c := by
  have hdigits : ∀ ch ∈ decimal c.pfx, ch.isDigit = true := fun ch hch =>
    Nat.isDigit_of_mem_toDigits (by decide) (by decide) hch
  have htrim : Text.trim (c.text pf) = c.text pf := by
    apply Text.trim_of_forall
    intro ch hch
    rcases List.mem_append.1 hch with hch | hch
    · exact (hostAddress_chars c.address ch hch).2.2
    · rcases List.mem_cons.1 hch with rfl | hch
      · rfl
      · exact Text.isWhitespace_of_isAlphanum (by simp [Char.isAlphanum, hdigits ch hch])
  have hsplit : (c.text pf).splitOn '/' = [c.address.hostAddress pf, decimal c.pfx] := by
    have htext : c.text pf = ['/'].intercalate [c.address.hostAddress pf, decimal c.pfx] := by
      simp [text, List.intercalate, List.intersperse]
    rw [htext]
    refine List.splitOn_intercalate '/' (fun part hpart hslash => ?_) (by simp)
    rcases List.mem_cons.1 hpart with rfl | hpart
    · exact (hostAddress_chars c.address _ hslash).2.1 rfl
    · rw [List.mem_singleton.1 hpart] at hslash
      exact absurd (hdigits _ hslash) (by decide)
  have hle := c.le
  have hmax := c.pfx_le_max
  rw [parseCidr, htrim, hsplit]
  simp only [List.length_cons, List.length_nil, List.getD_cons_zero, List.getD_cons_succ,
    parseAddress_hostAddress, ok_bind, ensure, decide_true, if_true]
  rw [Text.toIntOrNull_decimal _ (by omega)]
  exact dif_pos (by omega)

lemma length_network : c.network.address.length = c.address.address.length := length_mask

lemma bit_network (i : ℕ) :
    bit c.network.address i = (bit c.address.address i && decide (i < c.pfx)) := bit_mask

lemma normal_normal : c.normal.normal = c.normal := by
  refine Cidr.ext (InetAddress.ext ?_) rfl
  refine eq_of_bit c.normal.length_network fun i => (c.normal.bit_network i).trans ?_
  show (bit c.network.address i && decide (i < c.pfx)) = bit c.network.address i
  rw [bit_network, Bool.and_assoc, Bool.and_self]

lemma addresses_normal : c.normal.addresses = c.addresses := by
  ext x
  refine and_congr (by rw [← c.length_network]; rfl) (forall₂_congr fun i hi => ?_)
  show bit x i = bit c.network.address i ↔ _
  have hi : i < c.pfx := hi
  rw [bit_network, decide_eq_true hi, Bool.and_true]

variable {c c'}

lemma address_mem : c.address.address ∈ c.addresses := ⟨rfl, fun _ _ => rfl⟩

/-- A range whose addresses are all in another one has the longer network part: the first bit
after its own is free. -/
lemma pfx_le (h : c.addresses ⊆ c'.addresses) : c'.pfx ≤ c.pfx := by
  by_contra hlt
  obtain ⟨hlen, hbits⟩ := h c.address_mem
  obtain ⟨y, hy, hne, hsame⟩ := exists_flip (x := c.address.address) (j := c.pfx) (by
    have := c'.le
    omega)
  have hmem : y ∈ c'.addresses := h ⟨hy, hsame⟩
  exact hne ((hmem.2 c.pfx (by omega)).trans (hbits c.pfx (by omega)).symm)

/-- **A range is its first address and the length of its network part.** -/
lemma normal_eq_iff : c.normal = c'.normal ↔
    c.address.address.length = c'.address.address.length ∧ c.addresses = c'.addresses := by
  constructor
  · intro h
    refine ⟨?_, by rw [← addresses_normal, h, addresses_normal]⟩
    rw [← c.length_network, ← c'.length_network]
    exact congrArg (fun c : Cidr => c.address.address.length) h
  · rintro ⟨hlen, h⟩
    have hpfx : c.pfx = c'.pfx := Nat.le_antisymm (pfx_le h.ge) (pfx_le h.le)
    have hbits : ∀ i < c'.pfx, bit c.address.address i = bit c'.address.address i :=
      (h ▸ c.address_mem).2
    refine Cidr.ext (InetAddress.ext (eq_of_bit ?_ fun i => ?_)) hpfx
    · exact c.length_network.trans (hlen.trans c'.length_network.symm)
    · show bit c.network.address i = bit c'.network.address i
      rw [bit_network, bit_network, hpfx]
      by_cases hi : i < c'.pfx
      · rw [hbits i hi]
      · rw [decide_eq_false hi, Bool.and_false, Bool.and_false]

end Cidr

/-- **Ranges are normalised to the same text exactly if they are the same**: of one family, and
with the same addresses.  What is normalised stays as it is. -/
theorem cidr_canonical {value value' n n' : Text} (h : normalizeCidr pf value = .ok n)
    (h' : normalizeCidr pf value' = .ok n') :
    ∃ c c' : Cidr, parseCidr pf value = .ok c ∧ parseCidr pf value' = .ok c' ∧
      (n = n' ↔ c.address.address.length = c'.address.address.length ∧
        c.addresses = c'.addresses) ∧
      normalizeCidr pf n = .ok n := by
  obtain ⟨c, hc, rfl⟩ := Cidr.normalizeCidr_eq_ok.1 h
  obtain ⟨c', hc', rfl⟩ := Cidr.normalizeCidr_eq_ok.1 h'
  refine ⟨c, c', hc, hc', ?_, ?_⟩
  · rw [← Cidr.normal_eq_iff]
    refine ⟨fun heq => ?_, fun heq => by rw [heq]⟩
    have hread : parseCidr pf (c.normal.text pf) = .ok c.normal := c.normal.parseCidr_text
    rw [heq, Cidr.parseCidr_text] at hread
    exact (Except.ok.inj hread).symm
  · exact Cidr.normalizeCidr_eq_ok.2 ⟨c.normal, Cidr.parseCidr_text _, by rw [c.normal_normal]⟩

def hexAddresses : AddressPlatform where
  toCharTables := asciiTables
  getByName s := ((decodeHex s.tail).bind fun bytes => (getByAddress bytes).toOption)
  inet6Text bytes := ':' :: encodeHex bytes
  toASCII := some
  inet6Text_colon _ := List.mem_cons_self
  inet6Text_chars bytes c hc := by
    have hdigit : ∀ n < 16, hexDigit n ≠ '%' ∧ hexDigit n ≠ '/' ∧
        Text.isWhitespace (hexDigit n) = false := by decide
    rcases List.mem_cons.1 hc with rfl | hc
    · decide
    · obtain ⟨n, hn, rfl⟩ := exists_hexDigit_of_mem hc
      exact hdigit n hn
  inet6Text_parts bytes := by
    have hdigit : ∀ n < 16, hexDigit n ≠ '.' := by decide
    rw [List.splitOn_eq_singleton fun hc => ?_]
    · simp
    · rcases List.mem_cons.1 hc with hc | hc
      · cases hc
      · obtain ⟨n, hn, h⟩ := exists_hexDigit_of_mem hc
        exact hdigit n hn h.symm
  getByName_inet6Text a _ := by
    rw [List.tail_cons, decodeHex_encodeHex, Option.bind_some, a.getByAddress_address]
    rfl

theorem cidr_canonical_private : (∃ c c' : Cidr,
    parseCidr hexAddresses "172.31.2.3/12".toList = .ok c ∧
      parseCidr hexAddresses " 172.16.0.0/+12".toList = .ok c' ∧
      ("172.16.0.0/12".toList = "172.16.0.0/12".toList ↔
        c.address.address.length = c'.address.address.length ∧ c.addresses = c'.addresses) ∧
      normalizeCidr hexAddresses "172.16.0.0/12".toList = .ok "172.16.0.0/12".toList) ∧
    ∃ c c' : Cidr,
      parseCidr hexAddresses ":fd000000000000000000000000000001/7".toList = .ok c ∧
      parseCidr hexAddresses ":fd000000000000000000000000000001/9".toList = .ok c' ∧
      (":fc000000000000000000000000000000/7".toList =
          ":fd000000000000000000000000000000/9".toList ↔
        c.address.address.length = c'.address.address.length ∧ c.addresses = c'.addresses) ∧
      normalizeCidr hexAddresses ":fc000000000000000000000000000000/7".toList =
        .ok ":fc000000000000000000000000000000/7".toList :=
  ⟨cidr_canonical hexAddresses (by decide +kernel) (by decide +kernel),
    cidr_canonical hexAddresses (by decide +kernel) (by decide +kernel)⟩

/-! ## Rules -/

/-- `RoutingRule.MatchType`. -/
inductive MatchType
  | domain
  | domainSuffix
  | ip
  | cidr
deriving DecidableEq

/-- `RoutingRule.Action`. -/
inductive Action
  | direct
  | vpn
  | block
deriving DecidableEq

/-- `RoutingRule`. -/
structure RoutingRule where
  id : ℤ
  matchType : MatchType
  value : Text
  action : Action
  enabled : Bool
  sortOrder : ℤ
deriving DecidableEq

def normalizeDomain (value : Text) : Except String Text :=
  match pf.toASCII ((Text.trim value).rdropWhile (· = '.')) with
  | none => .error "IDN.toASCII"
  | some ascii => do
    let normalized := pf.lowercase ascii
    ensure (normalized ≠ [] ∧ Text.utf16Length normalized ≤ 253) "Invalid domain"
    ensure ((normalized.splitOn '.').all fun label =>
      label != [] && decide (Text.utf16Length label ≤ 63)) "Invalid domain"
    return normalized

def normalize (value : Text) : MatchType → Except String Text
  | .domain => normalizeDomain pf value
  | .domainSuffix => normalizeDomain pf (Text.dropIfPrefixed ['.'] (Text.trim value))
  | .ip => (parseAddress pf value).map (·.hostAddress pf)
  | .cidr => normalizeCidr pf value

namespace RoutingRule

variable (r r' : RoutingRule)

/-- What `create` makes of a rule. -/
def Normalised : Prop := ∃ value, normalize pf value r.matchType = .ok r.value

/-- `specificity`.  The number after the slash of a range that is normalised can be parsed. -/
def specificity : ℤ :=
  match r.matchType with
  | .ip => 1000
  | .cidr => 500 + (Text.toIntOrNull pf.toCharTables
      (Text.substringAfter '/' r.value r.value)).getD 0
  | .domain => 400 + Text.utf16Length r.value
  | .domainSuffix => 300 + Text.utf16Length r.value

/-- The comparator of `getEnabled`. -/
def before : Bool :=
  if r.specificity pf ≠ r'.specificity pf then decide (r'.specificity pf < r.specificity pf)
  else if r.sortOrder ≠ r'.sortOrder then decide (r.sortOrder < r'.sortOrder)
  else decide (r.id ≤ r'.id)

/-- `getEnabled`: the rules of the table that are enabled, in the order of the configuration. -/
def getEnabled (table : List RoutingRule) : List RoutingRule :=
  (table.filter (·.enabled)).insertionSort fun r r' => before pf r r' = true

/-- What a connection is made to. -/
inductive Target
  | domain (name : Text)
  | ip (address : Bytes)

/-- The targets of a rule: Xray compares domains label by label and addresses bit by bit. -/
def targets : Set Target :=
  { target | match r.matchType, target with
    | .domain, .domain name => name = r.value
    | .domainSuffix, .domain name => name = r.value ∨ '.' :: r.value <:+ name
    | .ip, .ip address => ∃ a, parseAddress pf r.value = .ok a ∧ address = a.address
    | .cidr, .ip address => ∃ c, parseCidr pf r.value = .ok c ∧ address ∈ c.addresses
    | _, _ => False }

variable {pf r r'}

lemma before_iff : before pf r r' = true ↔ r'.specificity pf < r.specificity pf ∨
    r.specificity pf = r'.specificity pf ∧ (r.sortOrder < r'.sortOrder ∨
      r.sortOrder = r'.sortOrder ∧ r.id ≤ r'.id) := by
  rw [before]
  split_ifs <;> simp <;> omega

lemma pairwise_getEnabled (pf : AddressPlatform) (table : List RoutingRule) :
    (getEnabled pf table).Pairwise fun r r' => r'.specificity pf ≤ r.specificity pf := by
  have htrans : IsTrans RoutingRule fun r r' => before pf r r' = true := ⟨by
    simp only [before_iff]
    omega⟩
  have htotal : Std.Total fun r r' : RoutingRule => before pf r r' = true := ⟨by
    simp only [before_iff]
    omega⟩
  refine (List.pairwise_insertionSort _ _).imp fun h => ?_
  rw [before_iff] at h
  omega

lemma Normalised.exists_ip (h : r.Normalised pf) (htype : r.matchType = .ip) :
    ∃ a : InetAddress, r.value = a.hostAddress pf := by
  obtain ⟨value, hvalue⟩ := h
  rw [htype, normalize] at hvalue
  cases ha : parseAddress pf value with
  | error e => simp [ha, Except.map] at hvalue
  | ok a =>
    rw [ha] at hvalue
    exact ⟨a, (Except.ok.inj hvalue).symm⟩

lemma Normalised.exists_cidr (h : r.Normalised pf) (htype : r.matchType = .cidr) :
    ∃ c : Cidr, parseCidr pf r.value = .ok c ∧ r.specificity pf = 500 + c.pfx := by
  obtain ⟨value, hvalue⟩ := h
  rw [htype] at hvalue
  obtain ⟨c, -, htext⟩ := Cidr.normalizeCidr_eq_ok.1 hvalue
  refine ⟨c.normal, htext ▸ c.normal.parseCidr_text, ?_⟩
  rw [specificity, htype, ← htext, Cidr.text]
  simp only
  rw [Text.substringAfter_append fun h => (hostAddress_chars _ _ h).2.1 rfl,
    Text.toIntOrNull_decimal _ (c.normal.pfx_le_max.trans_lt (by decide))]
  rfl

lemma domain_mem_targets {name : Text} (htype : r.matchType = .domainSuffix) :
    .domain name ∈ r.targets pf ↔ '.' :: r.value <:+ '.' :: name := by
  rw [List.suffix_cons_iff, List.cons.injEq, targets, Set.mem_ofPred_eq, htype]
  simp [eq_comm]

lemma utf16Length_append (a b : Text) :
    Text.utf16Length (a ++ b) = Text.utf16Length a + Text.utf16Length b := by
  simp [Text.utf16Length]

lemma utf16Length_dot (a : Text) : Text.utf16Length ('.' :: a) = 1 + Text.utf16Length a := by
  simp [Text.utf16Length]

lemma length_le_of_utf16Length {a b s : Text} (ha : a <:+ s) (hb : b <:+ s)
    (h : Text.utf16Length a ≤ Text.utf16Length b) : a.length ≤ b.length := by
  by_contra hlt
  obtain ⟨c, rfl⟩ := List.suffix_of_suffix_length_le hb ha (by omega)
  rw [utf16Length_append] at h
  cases c with
  | nil => exact hlt le_rfl
  | cons x c =>
    rw [← List.singleton_append, utf16Length_append] at h
    have hx : 1 ≤ Text.utf16Length [x] := by
      simp only [Text.utf16Length, List.map_cons, List.map_nil, List.sum_singleton]
      split_ifs <;> omega
    omega

/-- Of two ranges with a common address, the one with the longer network part is contained in the
other. -/
lemma addresses_subset {c c' : Cidr} {address : Bytes} (h : address ∈ c.addresses)
    (h' : address ∈ c'.addresses) (hle : c'.pfx ≤ c.pfx) : c.addresses ⊆ c'.addresses := by
  refine fun x hx => ⟨hx.1.trans (h.1.symm.trans h'.1), fun i hi => ?_⟩
  have hic : i < c.pfx := hi.trans_le hle
  rw [hx.2 i hic, ← h.2 i hic, h'.2 i hi]

lemma ip_mem_targets {address : Bytes} {c : Cidr} (htype : r.matchType = .cidr)
    (hc : parseCidr pf r.value = .ok c) : .ip address ∈ r.targets pf ↔ address ∈ c.addresses := by
  simp [targets, htype, hc]

lemma eq_of_mem_targets (htype : r.matchType = .domain ∨ r.matchType = .ip) {x y : Target}
    (hx : x ∈ r.targets pf) (hy : y ∈ r.targets pf) : x = y := by
  rcases htype with htype | htype <;> cases x <;> cases y <;>
    simp only [targets, Set.mem_ofPred_eq, htype] at hx hy <;> grind

/-- **Of two rules that match one target, the one with the greater specificity is contained in the
other.** -/
lemma targets_subset (h : r.Normalised pf) (h' : r'.Normalised pf) {target : Target}
    (hr : target ∈ r.targets pf) (hr' : target ∈ r'.targets pf)
    (hle : r'.specificity pf ≤ r.specificity pf) : r.targets pf ⊆ r'.targets pf := by
  cases htype : r.matchType with
  | domain => exact fun x hx => eq_of_mem_targets (.inl htype) hr hx ▸ hr'
  | ip => exact fun x hx => eq_of_mem_targets (.inr htype) hr hx ▸ hr'
  | domainSuffix =>
    cases target with
    | ip address => simp [targets, htype] at hr
    | domain name =>
      rw [domain_mem_targets htype] at hr
      cases htype' : r'.matchType with
      | domain =>
        have hname : name = r'.value := by simpa [targets, htype'] using hr'
        obtain ⟨c, hc⟩ := hr
        have hlen := congrArg Text.utf16Length hc
        simp only [utf16Length_append, utf16Length_dot, hname] at hlen
        simp only [specificity, htype, htype'] at hle
        omega
      | domainSuffix =>
        rw [domain_mem_targets htype'] at hr'
        have hlen := length_le_of_utf16Length hr' hr (by
          simp only [specificity, htype, htype'] at hle
          simp only [utf16Length_dot]
          omega)
        have hsuffix := List.suffix_of_suffix_length_le hr' hr hlen
        rintro (other | address) hx
        · rw [domain_mem_targets htype] at hx
          exact (domain_mem_targets htype').2 (hsuffix.trans hx)
        · simp [targets, htype] at hx
      | ip | cidr => simp [targets, htype'] at hr'
  | cidr =>
    obtain ⟨c, hc, hspec⟩ := h.exists_cidr htype
    cases target with
    | domain name => simp [targets, htype] at hr
    | ip address =>
      rw [ip_mem_targets htype hc] at hr
      cases htype' : r'.matchType with
      | domain | domainSuffix => simp [targets, htype'] at hr'
      | ip =>
        have hmax := c.pfx_le_max
        rw [hspec, specificity, htype'] at hle
        simp only at hle
        omega
      | cidr =>
        obtain ⟨c', hc', hspec'⟩ := h'.exists_cidr htype'
        rw [ip_mem_targets htype' hc'] at hr'
        have hsubset := addresses_subset hr hr' (by omega)
        rintro (other | x) hx
        · simp [targets, htype] at hx
        · rw [ip_mem_targets htype hc] at hx
          exact (ip_mem_targets htype' hc').2 (hsubset hx)

lemma exists_mem_targets (h : r.Normalised pf) : ∃ target, target ∈ r.targets pf := by
  cases htype : r.matchType with
  | domain => exact ⟨.domain r.value, by simp [targets, htype]⟩
  | domainSuffix => exact ⟨.domain r.value, by simp [targets, htype]⟩
  | ip =>
    obtain ⟨a, ha⟩ := h.exists_ip htype
    have hread : parseAddress pf r.value = .ok a := ha ▸ parseAddress_hostAddress a
    exact ⟨.ip a.address, by simp [targets, htype, hread]⟩
  | cidr =>
    obtain ⟨c, hc, -⟩ := h.exists_cidr htype
    exact ⟨.ip c.address.address, by simpa [targets, htype, hc] using c.address_mem⟩

end RoutingRule

/-! ## The configuration -/

/-- `RoutingPolicy.Preset`. -/
inductive Preset
  | russiaDirect
  | allVpn
deriving DecidableEq

/-- `RoutingPolicy`. -/
structure RoutingPolicy where
  preset : Preset
  allowLan : Bool

/-- A rule of the configuration, as Xray reads it from the text: the fields that a connection has
to match, with the values for each, and where it goes. -/
structure XrayRule where
  fields : List (String × List Text)
  outboundTag : String
deriving DecidableEq

namespace NativeConfig

def lanRanges : List Text :=
  ["10.0.0.0/8", "100.64.0.0/10", "127.0.0.0/8", "169.254.0.0/16", "172.16.0.0/12",
    "192.168.0.0/16", "::1/128", "fc00::/7", "fe80::/10"].map String.toList

def russiaGeosites : List Text :=
  ["domain:ru", "domain:xn--p1ai", "geosite:category-ru",
    "geosite:ru-available-only-inside"].map String.toList

def fieldRule (field : String) (values : List Text) (outboundTag : String) : XrayRule :=
  ⟨[(field, values)], outboundTag⟩

/-- `field` in `routing`. -/
def field (rule : RoutingRule) : String × Text :=
  match rule.matchType with
  | .domain => ("domain", "full:".toList ++ rule.value)
  | .domainSuffix => ("domain", "domain:".toList ++ rule.value)
  | .ip | .cidr => ("ip", rule.value)

/-- `outboundTag` in `routing`. -/
def outboundTag : Action → String
  | .direct => "direct"
  | .vpn => "proxy"
  | .block => "block"

def xrayRule (rule : RoutingRule) : XrayRule :=
  fieldRule (field rule).1 [(field rule).2] (outboundTag rule.action)

def fixedRules : List XrayRule :=
  [⟨[("inboundTag", ["latency-test".toList])], "proxy"⟩,
    ⟨[("inboundTag", ["dns-proxy".toList])], "proxy"⟩,
    ⟨[("ip", ["10.0.0.1".toList]), ("port", ["53".toList]), ("network", ["tcp,udp".toList])],
      "dns-out"⟩,
    ⟨[("port", ["853".toList]), ("network", ["tcp".toList])], "block"⟩]

def policyRules (policy : RoutingPolicy) : List XrayRule :=
  (if policy.allowLan then [fieldRule "ip" lanRanges "direct"] else []) ++
    (if policy.preset = .russiaDirect then
      fieldRule "ip" ["geoip:ru".toList] "direct" ::
        russiaGeosites.map fun site => fieldRule "domain" [site] "direct"
    else []) ++
    [⟨[("network", ["tcp,udp".toList])], "proxy"⟩]

/-- `routing`, without the JSON around the rules. -/
def routing (rules : List RoutingRule) (policy : RoutingPolicy) : List XrayRule :=
  fixedRules ++ rules.map xrayRule ++ policyRules policy

end NativeConfig

/-- The targets of an entry of the configuration, as Xray reads it: `full:` is for one domain,
`domain:` for one and all below it. -/
def entryTargets (field : String) (value : Text) : Set RoutingRule.Target :=
  { target | match target with
    | .domain name => field = "domain" ∧ (value = "full:".toList ++ name ∨
        ∃ d, value = "domain:".toList ++ d ∧ (name = d ∨ '.' :: d <:+ name))
    | .ip address => field = "ip" ∧
        if '/' ∈ value then ∃ c, parseCidr pf value = .ok c ∧ address ∈ c.addresses
        else ∃ a, parseAddress pf value = .ok a ∧ address = a.address }

/-- The targets of a rule that asks for nothing but a domain or an address. -/
def XrayRule.targets (rule : XrayRule) : Set RoutingRule.Target :=
  { target | ∀ field ∈ rule.fields, ∃ value ∈ field.2, target ∈ entryTargets pf field.1 value }

namespace RoutingRule

open NativeConfig

variable {pf} {r r' : RoutingRule}

lemma targets_xrayRule_iff {target : Target} :
    target ∈ (xrayRule r).targets pf ↔ target ∈ entryTargets pf (field r).1 (field r).2 := by
  simp [XrayRule.targets, xrayRule, fieldRule]

/-- **Xray matches what the rule says**: the value of a range has a slash, and that of an address
has none. -/
lemma targets_xrayRule (h : r.Normalised pf) : (xrayRule r).targets pf = r.targets pf := by
  ext target
  rw [targets_xrayRule_iff, entryTargets, targets, Set.mem_ofPred_eq, Set.mem_ofPred_eq]
  have hip : r.matchType = .ip → '/' ∉ r.value := by
    intro htype
    obtain ⟨a, htext⟩ := h.exists_ip htype
    rw [htext]
    exact fun h => (hostAddress_chars a _ h).2.1 rfl
  have hcidr : r.matchType = .cidr → '/' ∈ r.value := by
    intro htype
    obtain ⟨value, hvalue⟩ := h
    rw [htype] at hvalue
    obtain ⟨c, -, htext⟩ := Cidr.normalizeCidr_eq_ok.1 hvalue
    rw [← htext]
    exact List.mem_append_right _ List.mem_cons_self
  cases htype : r.matchType <;> cases target <;>
    simp [field, htype, hip, hcidr, eq_comm]

variable {table : List RoutingRule}

lemma mem_getEnabled : r ∈ getEnabled pf table ↔ r ∈ table ∧ r.enabled = true := by
  simp [getEnabled]

lemma lt_of_targets_ssubset (h : ∀ r ∈ table, r.Normalised pf) {i j : ℕ}
    (hi : (getEnabled pf table)[i]? = some r) (hj : (getEnabled pf table)[j]? = some r')
    (hlt : r.targets pf ⊂ r'.targets pf) : i < j := by
  have hr := h r (mem_getEnabled.1 (List.mem_of_getElem? hi)).1
  have hr' := h r' (mem_getEnabled.1 (List.mem_of_getElem? hj)).1
  obtain ⟨target, htarget⟩ := exists_mem_targets hr
  by_contra hij
  refine hlt.2 (targets_subset hr' hr (hlt.1 htarget) htarget ?_)
  obtain ⟨hi', rfl⟩ := List.getElem?_eq_some_iff.1 hi
  obtain ⟨hj', rfl⟩ := List.getElem?_eq_some_iff.1 hj
  rcases Nat.lt_or_eq_of_le (Nat.le_of_not_lt hij) with hji | rfl
  · exact List.pairwise_iff_getElem.1 (pairwise_getEnabled pf table) j i hj' hi' hji
  · exact le_rfl

lemma exists_first_match (h : ∀ r ∈ table, r.Normalised pf) {target : Target}
    (hsome : ∃ r ∈ getEnabled pf table, target ∈ r.targets pf) :
    ∃ first r rest, getEnabled pf table = first ++ r :: rest ∧
      (∀ q ∈ first, target ∉ q.targets pf) ∧ target ∈ r.targets pf ∧
      ∀ r' ∈ getEnabled pf table, target ∈ r'.targets pf → r.targets pf ⊆ r'.targets pf := by
  classical
  obtain ⟨q, hq, htarget⟩ := hsome
  have hfound := List.find?_isSome (p := fun r => decide (target ∈ r.targets pf)).2
    ⟨q, hq, decide_eq_true htarget⟩
  obtain ⟨r, hfind⟩ := Option.isSome_iff_exists.1 hfound
  obtain ⟨hr, first, rest, heq, hfirst⟩ := List.find?_eq_some_iff_append.1 hfind
  simp only [decide_eq_true_eq, Bool.not_eq_true', decide_eq_false_iff_not] at hr hfirst
  refine ⟨first, r, rest, heq, hfirst, hr, fun r' hr' htarget' => ?_⟩
  have hnormal : ∀ q ∈ getEnabled pf table, q.Normalised pf := fun q hq =>
    h q (mem_getEnabled.1 hq).1
  refine targets_subset (hnormal r (heq ▸ by simp)) (hnormal r' hr') hr htarget' ?_
  have hsorted := pairwise_getEnabled pf table
  rw [heq, List.pairwise_append, List.pairwise_cons] at hsorted
  rw [heq] at hr'
  rcases List.mem_append.1 hr' with hr' | hr'
  · exact absurd htarget' (hfirst r' hr')
  · rcases List.mem_cons.1 hr' with rfl | hr'
    · exact le_rfl
    · exact hsorted.2.1.1 r' hr'

/-- **The most specific rule comes first**, in whatever order the rules were saved.  The rules that
are enabled are all in the configuration, and match there what they say; a rule comes before those
that contain it; and when one of them matches a target there is a first one, contained in all
that do. -/
theorem most_specific_first (policy : RoutingPolicy) (table : List RoutingRule)
    (h : ∀ r ∈ table, r.Normalised pf) :
    routing (getEnabled pf table) policy =
      fixedRules ++ (getEnabled pf table).map xrayRule ++ policyRules policy ∧
    (getEnabled pf table).Perm (table.filter (·.enabled)) ∧
    (∀ r ∈ table, (xrayRule r).targets pf = r.targets pf) ∧
    (∀ (i j : ℕ) (r r' : RoutingRule), (getEnabled pf table)[i]? = some r →
      (getEnabled pf table)[j]? = some r' →
      (xrayRule r).targets pf ⊂ (xrayRule r').targets pf → i < j) ∧
    ∀ target, (∃ r ∈ table, r.enabled = true ∧ target ∈ (xrayRule r).targets pf) →
      ∃ first r rest, getEnabled pf table = first ++ r :: rest ∧
        (∀ q ∈ first, target ∉ (xrayRule q).targets pf) ∧ target ∈ (xrayRule r).targets pf ∧
        ∀ r' ∈ table, r'.enabled = true → target ∈ (xrayRule r').targets pf →
          (xrayRule r).targets pf ⊆ (xrayRule r').targets pf := by
  have htargets : ∀ r ∈ getEnabled pf table, (xrayRule r).targets pf = r.targets pf := fun r hr =>
    targets_xrayRule (h r (mem_getEnabled.1 hr).1)
  refine ⟨rfl, List.perm_insertionSort _ _, fun r hr => targets_xrayRule (h r hr), ?_, ?_⟩
  · intro i j r r' hi hj hlt
    rw [htargets r (List.mem_of_getElem? hi), htargets r' (List.mem_of_getElem? hj)] at hlt
    exact lt_of_targets_ssubset h hi hj hlt
  · rintro target ⟨q, hq, henabled, htarget⟩
    have hq' : q ∈ getEnabled pf table := mem_getEnabled.2 ⟨hq, henabled⟩
    obtain ⟨first, r, rest, heq, hfirst, hr, hsubset⟩ :=
      exists_first_match h ⟨q, hq', htargets q hq' ▸ htarget⟩
    have hmem : r ∈ getEnabled pf table := heq ▸ by simp
    refine ⟨first, r, rest, heq, fun q hq => ?_, htargets r hmem ▸ hr, fun r' hr' henabled' => ?_⟩
    · rw [htargets q (heq ▸ List.mem_append_left _ hq)]
      exact hfirst q hq
    · have hmem' : r' ∈ getEnabled pf table := mem_getEnabled.2 ⟨hr', henabled'⟩
      rw [htargets r hmem, htargets r' hmem']
      exact hsubset r' hmem'

theorem most_specific_first_ads :
    let ads : RoutingRule := ⟨1, .domain, "ads.example.org".toList, .block, true, 0⟩
    let org : RoutingRule := ⟨2, .domainSuffix, "example.org".toList, .direct, true, 0⟩
    let off : RoutingRule := ⟨3, .domainSuffix, "org".toList, .vpn, false, 0⟩
    routing (getEnabled hexAddresses [off, org, ads]) ⟨.allVpn, false⟩ =
        fixedRules ++ [fieldRule "domain" ["full:ads.example.org".toList] "block",
          fieldRule "domain" ["domain:example.org".toList] "direct"] ++
          policyRules ⟨.allVpn, false⟩ ∧
      ∃ first r rest, getEnabled hexAddresses [off, org, ads] = first ++ r :: rest ∧
        (∀ q ∈ first, .domain "ads.example.org".toList ∉ (xrayRule q).targets hexAddresses) ∧
        .domain "ads.example.org".toList ∈ (xrayRule r).targets hexAddresses ∧
        ∀ r' ∈ [off, org, ads], r'.enabled = true →
          .domain "ads.example.org".toList ∈ (xrayRule r').targets hexAddresses →
          (xrayRule r).targets hexAddresses ⊆ (xrayRule r').targets hexAddresses := by
  intro ads org off
  have hnormal : ∀ r ∈ [off, org, ads], r.Normalised hexAddresses := by
    intro r hr
    rcases List.mem_cons.1 hr with rfl | hr
    · exact ⟨"org".toList, by decide +kernel⟩
    · rcases List.mem_pair.1 hr with rfl | rfl
      · exact ⟨"example.org".toList, by decide +kernel⟩
      · exact ⟨"ads.example.org".toList, by decide +kernel⟩
  obtain ⟨hrouting, -, -, -, hfirst⟩ :=
    most_specific_first ⟨.allVpn, false⟩ [off, org, ads] hnormal
  refine ⟨hrouting.trans (by decide +kernel), hfirst _ ⟨ads, by simp, rfl, ?_⟩⟩
  rw [targets_xrayRule (hnormal ads (by simp))]
  simp [targets, ads]

end RoutingRule

end OlcRtc.Client
