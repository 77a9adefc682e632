import Uvco.Library.Decimal
import Uvco.Library.FirstOccurrence
import Uvco.Library.LittleEndian
import Uvco.NameResolution

/-!
# Addresses as texts

This file embeds what `uvco/name_resolution.{h,cc}` makes of an `AddressHandle`:
`address`, `port`, `family` and `toString`, with the constructors that take the bytes of an
address.

`inet_ntop` is a parameter. It is given the bytes of an address and the size of a
buffer. What `toString` returns is compared with a reader of addresses in URLs
(`readAddress`).
-/

namespace Uvco

/-- `ntohs()`, on a machine that stores the low byte first. -/
def ntohs (port : UInt16) : UInt16 :=
  port <<< 8 ||| port >>> 8

theorem ntohs_htons (port : UInt16) : ntohs (htons port) = port := by
  apply UInt16.toBitVec_inj.mp
  apply BitVec.eq_of_getLsbD_eq
  intro i bound
  have outside : ∀ position ≥ 16, port.toBitVec.getLsbD position = false := by
    intro position far
    exact BitVec.getLsbD_of_ge _ _ far
  simp only [ntohs, htons, UInt16.toBitVec_or, UInt16.toBitVec_shiftLeft,
    UInt16.toBitVec_shiftRight]
  rcases Nat.lt_or_ge i 8 with low | high
  · have inside : 8 + i < 16 := by omega
    simp [bound, low, inside, outside (8 + (8 + i)) (by omega)]
  · have back : 8 + (i - 8) = i := by omega
    have short : i - 8 < 8 := by omega
    have far : ¬ 8 + i < 16 := by omega
    have not_low : ¬ i < 8 := by omega
    simp [bound, back, short, far, not_low, outside (8 + (8 + i)) (by omega)]

theorem htons_ntohs (port : UInt16) : htons (ntohs port) = port :=
  ntohs_htons port

/-- `inet_ntop`: the text that it writes, or the message for `errno` if it returns a null
pointer. -/
abbrev InetNtop := Int → List UInt8 → ℕ → Except String (List Char)

/-- The ASCII digits. -/
def decimalDigits : DecimalDigits Char where
  digit d := Char.ofNat (48 + d)
  value char := if '0' ≤ char ∧ char ≤ '9' then some (char.toNat - 48) else none
  value_digit := by decide

namespace AddressHandle

/-- `ipv4Length` -/
def ipv4Length : ℕ := 4

/-- `ipv6Length` -/
def ipv6Length : ℕ := 16

/-- `AddressHandle(std::span<const uint8_t> ipv4_or_6, uint16_t port, uint32_t v6scope)`. -/
def ofSpan (ipv4_or_6 : List UInt8) (port : UInt16) (v6scope : UInt32) :
    Except UvcoException AddressHandle :=
  if ipv4_or_6.length = ipv4Length then
    .ok (.inet {
      sin_family := AF_INET
      sin_port := htons port
      sin_addr := BitVec.ofNat 32 (LittleEndian.value ipv4_or_6) })
  else if ipv4_or_6.length = ipv6Length then
    .ok (.inet6 {
      sin6_family := AF_INET6
      sin6_port := htons port
      sin6_addr := BitVec.ofNat 128 (LittleEndian.value ipv4_or_6)
      sin6_scope_id := v6scope })
  else
    .error (.ofMessage "Invalid address size for IPv4/6 address!")

/-- `AddressHandle(uint32_t ipv4, uint16_t port)`. -/
def ofUInt32 (ipv4 : BitVec 32) (port : UInt16) : Except UvcoException AddressHandle :=
  ofSpan (LittleEndian.bytes 4 ipv4.toNat) port 0

/-- `AddressHandle::port`. -/
def port : AddressHandle → UInt16
  | .inet address => ntohs address.sin_port
  | .inet6 address => ntohs address.sin6_port

/-- The alternative of the variant, which is not always what the structure says. -/
def family : AddressHandle → Int
  | .inet _ => AF_INET
  | .inet6 _ => AF_INET6

section

variable (inet_ntop : InetNtop)

/-- `NtopHelper_::ntop` -/
def ntop (family : Int) (addr : List UInt8) : Except UvcoException (List Char) :=
  let size :=
    if family = AF_INET then 4 * 3 + 3 + 1
    else if family = AF_INET6 then 8 * 4 + 7 + 1
    else 0
  match inet_ntop family addr size with
  | .error message => .error (.ofMessage ("inet_ntop(): " ++ message))
  | .ok result => .ok result

/-- `AddressHandle::address`, with the `inet_ntop` of the system. -/
def address : AddressHandle → Except UvcoException (List Char)
  | .inet ipv4 => ntop inet_ntop ipv4.sin_family (LittleEndian.bytes 4 ipv4.sin_addr.toNat)
  | .inet6 ipv6 => ntop inet_ntop ipv6.sin6_family (LittleEndian.bytes 16 ipv6.sin6_addr.toNat)

/-- `AddressHandle::toString`; it throws what `inet_ntop` fails with. -/
def toString (handle : AddressHandle) : Except UvcoException (List Char) :=
  if handle.family = AF_INET then do
    return (← handle.address inet_ntop) ++ ':' :: decimalDigits.render handle.port.toNat
  else if handle.family = AF_INET6 then do
    return '[' :: (← handle.address inet_ntop) ++ ']' :: ':' ::
      decimalDigits.render handle.port.toNat
  else
    return []

end

/-! ## Reading an address -/

/-- A host and the port behind a separator. -/
def readParts (separator text : List Char) : Option (List Char × ℕ) :=
  (cut separator text).bind fun (host, port) =>
    (decimalDigits.parse port).map fun port => (host, port)

/-- A host in brackets, or one that ends with the first colon. -/
def readAddress : List Char → Option (List Char × ℕ)
  | '[' :: text => readParts [']', ':'] text
  | text => readParts [':'] text

/-- What is documented about `inet_ntop` and `inet_pton`: each address has a text, of a known form,
that fits into a buffer of the usual size, and the text is read back. -/
structure Presentation (inet_ntop : InetNtop) (inetPton : InetPton) : Prop where
  inet : ∀ address : BitVec 32, ∃ text,
    text.length < 16 ∧ (∀ char ∈ text, char.isDigit = true ∨ char = '.') ∧
      (∀ size, text.length < size →
        inet_ntop AF_INET (LittleEndian.bytes 4 address.toNat) size = .ok text) ∧
      inetPton.inet (text ++ [NUL]) = some address
  inet6 : ∀ address : BitVec 128, ∃ text,
    text.length < 40 ∧ ':' ∈ text ∧ ']' ∉ text ∧ NUL ∉ text ∧
      (∀ size, text.length < size →
        inet_ntop AF_INET6 (LittleEndian.bytes 16 address.toNat) size = .ok text) ∧
      inetPton.inet6 (text ++ [NUL]) = some address
  /-- `EAFNOSUPPORT` -/
  unsupported : ∀ family address size, family ≠ AF_INET → family ≠ AF_INET6 →
    ∃ message, inet_ntop family address size = .error message

/-- The family of a structure is that by which it was selected. -/
def Consistent : Sockaddr → Prop
  | .inet address => address.sin_family = AF_INET
  | .inet6 address => address.sin6_family = AF_INET6
  | .other _ => True

/-- The handles that the constructors make. -/
inductive Made (inetPton : InetPton) : AddressHandle → Prop where
  | default : Made inetPton .default
  | ofSpan {bytes port v6scope handle} (made : ofSpan bytes port v6scope = .ok handle) :
      Made inetPton handle
  | ofUInt32 {ipv4 port handle} (made : ofUInt32 ipv4 port = .ok handle) : Made inetPton handle
  | ofStringView {ip port v6scope handle}
      (made : ofStringView inetPton ip port v6scope = .ok handle) : Made inetPton handle
  | ofAddrinfo {ai_addr} (consistent : Consistent ai_addr) : Made inetPton (ofAddrinfo ai_addr)
  | ofSockaddr {sa handle} (consistent : Consistent sa) (made : ofSockaddr sa = .ok handle) :
      Made inetPton handle

/-- The same address and port with another scope id and no flow information, which an IPv4 address
does not have. -/
def withScope (v6scope : UInt32) : AddressHandle → AddressHandle
  | .inet address => .inet address
  | .inet6 address => .inet6 { address with sin6_flowinfo := 0, sin6_scope_id := v6scope }

section

variable {inetPton : InetPton} {inet_ntop : InetNtop} {handle : AddressHandle}

theorem ofSpan_consistent {bytes : List UInt8} {port : UInt16} {v6scope : UInt32}
    (made : ofSpan bytes port v6scope = .ok handle) : Consistent handle.sockaddr := by
  unfold ofSpan at made
  split at made
  · cases made
    rfl
  · split at made
    · cases made
      rfl
    · cases made

/-- Only the default constructor makes a handle without a family. -/
theorem Made.cases (made : Made inetPton handle) :
    handle = .default ∨ Consistent handle.sockaddr := by
  cases made with
  | default => exact .inl rfl
  | ofSpan made => exact .inr (ofSpan_consistent made)
  | ofUInt32 made => exact .inr (ofSpan_consistent made)
  | ofStringView made =>
      right
      unfold AddressHandle.ofStringView at made
      split at made
      · split at made
        · cases made
        · cases made
          rfl
      · split at made
        · cases made
        · cases made
          rfl
  | @ofAddrinfo ai_addr consistent =>
      cases ai_addr with
      | inet address => exact .inr consistent
      | inet6 address => exact .inr consistent
      | other family => exact .inl rfl
  | @ofSockaddr sa _ consistent made =>
      right
      cases sa with
      | inet address => cases made; exact consistent
      | inet6 address => cases made; exact consistent
      | other family => cases made

theorem toString_of_error {exception : UvcoException}
    (fails : handle.address inet_ntop = .error exception) :
    handle.toString inet_ntop = .error exception := by
  cases handle <;> simp [toString, family, fails, AF_INET, AF_INET6, bind, Except.bind]

theorem toString_default (presentation : Presentation inet_ntop inetPton) :
    ∃ message, AddressHandle.default.toString inet_ntop = .error (.ofMessage message) := by
  rcases presentation.unsupported AF_UNSPEC (LittleEndian.bytes 4 0) 0 (by decide) (by decide) with
    ⟨message, fails⟩
  refine ⟨"inet_ntop(): " ++ message, toString_of_error ?_⟩
  have no_text : ntop inet_ntop AF_UNSPEC (LittleEndian.bytes 4 0) =
      .error (.ofMessage ("inet_ntop(): " ++ message)) := by
    have sizes : AF_UNSPEC ≠ AF_INET ∧ AF_UNSPEC ≠ AF_INET6 := by decide
    simp only [ntop, if_neg sizes.1, if_neg sizes.2, fails]
  exact no_text

theorem readParts_eq {host separator : List Char} (nonempty : separator ≠ [])
    (first_one : Before separator host) (port : UInt16) :
    readParts separator (host ++ separator ++ decimalDigits.render port.toNat) =
      some (host, port.toNat) := by
  rw [readParts, Cut.eq_some nonempty first_one]
  simp [decimalDigits.parse_render]

theorem readAddress_of_head {text : List Char} (head : text.head? ≠ some '[') :
    readAddress text = readParts [':'] text := by
  unfold readAddress
  split
  · simp at head
  · rfl

theorem data_ofString {text : List Char} (no_nul : NUL ∉ text) :
    (StringView.ofString text).data = text ++ [NUL] := by
  rw [StringView.data_eq, StringView.contents_ofString, StringView.rest_ofString,
    ReadUntil.append_of_not_mem no_nul]
  simp [readUntil]

theorem ofStringView_ofString_inet {host : List Char} {address : BitVec 32}
    (no_colon : ':' ∉ host) (no_nul : NUL ∉ host)
    (read : inetPton.inet (host ++ [NUL]) = some address) (port : UInt16) (v6scope : UInt32) :
    ofStringView inetPton (.ofString host) port v6scope =
      .ok (.inet { sin_family := AF_INET, sin_addr := address, sin_port := htons port }) := by
  simp [ofStringView, StringView.contents_ofString, no_colon, data_ofString no_nul, read]

theorem ofStringView_ofString_inet6 {host : List Char} {address : BitVec 128}
    (colon : ':' ∈ host) (no_nul : NUL ∉ host)
    (read : inetPton.inet6 (host ++ [NUL]) = some address) (port : UInt16) (v6scope : UInt32) :
    ofStringView inetPton (.ofString host) port v6scope =
      .ok (.inet6 {
        sin6_family := AF_INET6
        sin6_addr := address
        sin6_port := htons port
        sin6_scope_id := v6scope }) := by
  simp [ofStringView, StringView.contents_ofString, colon, data_ofString no_nul, read]

/-- A text from which the handle is read back, but for scope id and flow information. -/
def Readable (inetPton : InetPton) (handle : AddressHandle) (text : List Char) : Prop :=
  ∃ host, readAddress text = some (host, handle.port.toNat) ∧
    ∀ v6scope, ofStringView inetPton (.ofString host) handle.port v6scope =
      .ok (handle.withScope v6scope)

theorem toString_inet (presentation : Presentation inet_ntop inetPton) {ipv4 : SockaddrIn}
    (consistent : ipv4.sin_family = AF_INET) :
    ∃ text, (inet ipv4).toString inet_ntop = .ok text ∧ Readable inetPton (inet ipv4) text := by
  rcases presentation.inet ipv4.sin_addr with ⟨host, short, chars, written, read⟩
  have free : ∀ char ∈ [':', NUL, '['], char ∉ host := by
    have none_allowed : ∀ char ∈ [':', NUL, '['], ¬ (char.isDigit = true ∨ char = '.') := by
      simp only [List.forall_mem_cons]
      exact ⟨by decide, by decide, by decide, by simp⟩
    exact fun char special mem => none_allowed char special (chars char mem)
  have found : (inet ipv4).address inet_ntop = .ok host := by
    simp only [address, ntop, consistent, if_true, written _ short]
  refine ⟨host ++ ':' :: decimalDigits.render (inet ipv4).port.toNat, ?_, host, ?_, ?_⟩
  · simp [toString, family, found, bind, Except.bind, pure, Except.pure]
  · have first_one : Before [':'] host := Before.singleton_iff.mpr (free ':' (by simp))
    have no_bracket : (host ++ ':' :: decimalDigits.render (inet ipv4).port.toNat).head? ≠
        some '[' := by
      cases host with
      | nil => simp
      | cons first rest =>
          have first_other := free '[' (by simp)
          simp only [List.mem_cons, not_or] at first_other
          simpa using Ne.symm first_other.1
    rw [readAddress_of_head no_bracket]
    simpa using readParts_eq (by simp) first_one (inet ipv4).port
  · intro v6scope
    rw [ofStringView_ofString_inet (free ':' (by simp)) (free NUL (by simp)) read]
    rcases ipv4 with ⟨sin_family, sin_addr, sin_port⟩
    simp only at consistent
    simp [port, withScope, htons_ntohs, consistent]

theorem toString_inet6 (presentation : Presentation inet_ntop inetPton) {ipv6 : SockaddrIn6}
    (consistent : ipv6.sin6_family = AF_INET6) :
    ∃ text, (inet6 ipv6).toString inet_ntop = .ok text ∧
      Readable inetPton (inet6 ipv6) text := by
  rcases presentation.inet6 ipv6.sin6_addr with ⟨host, short, colon, bracket, nul, written, read⟩
  have found : (inet6 ipv6).address inet_ntop = .ok host := by
    have other : AF_INET6 ≠ AF_INET := by decide
    simp only [address, ntop, consistent, if_neg other, if_true, written _ short]
  refine ⟨'[' :: host ++ ']' :: ':' :: decimalDigits.render (inet6 ipv6).port.toNat, ?_, host,
    ?_, ?_⟩
  · simp [toString, family, found, AF_INET, AF_INET6, bind, Except.bind, pure, Except.pure]
  · have first_one : Before [']', ':'] host := by
      apply (Before.iff_of_unbordered (Unbordered.pair (by decide))).mpr
      intro inside
      exact bracket (inside.subset (by simp))
    simpa [readAddress] using readParts_eq (by simp) first_one (inet6 ipv6).port
  · intro v6scope
    rw [ofStringView_ofString_inet6 colon nul read]
    rcases ipv6 with ⟨sin6_family, sin6_port, sin6_flowinfo, sin6_addr, sin6_scope_id⟩
    simp only at consistent
    simp [port, withScope, htons_ntohs, consistent]

theorem toString_cases (presentation : Presentation inet_ntop inetPton)
    (made : Made inetPton handle) :
    (handle = .default ∧ ∃ message, handle.toString inet_ntop = .error (.ofMessage message)) ∨
      (handle ≠ .default ∧ ∃ text, handle.toString inet_ntop = .ok text ∧
        Readable inetPton handle text) := by
  rcases made.cases with rfl | consistent
  · exact .inl ⟨rfl, toString_default presentation⟩
  · right
    cases handle with
    | inet ipv4 =>
        refine ⟨?_, toString_inet presentation consistent⟩
        rintro ⟨⟩
        exact absurd (show AF_UNSPEC = AF_INET from consistent) (by decide)
    | inet6 ipv6 => exact ⟨nofun, toString_inet6 presentation consistent⟩

/-- Two handles have the same text if and only if they are equal but for scope id and flow
information. -/
theorem toString_eq_iff (presentation : Presentation inet_ntop inetPton)
    {left right : AddressHandle} (left_made : Made inetPton left)
    (right_made : Made inetPton right) :
    left.toString inet_ntop = right.toString inet_ntop ↔ left.withScope 0 = right.withScope 0 := by
  constructor
  · intro same
    rcases toString_cases presentation left_made with
      ⟨rfl, _, left_fails⟩ | ⟨_, text, left_text, left_host, left_read, left_parsed⟩
    · rcases toString_cases presentation right_made with
        ⟨rfl, _⟩ | ⟨_, text, right_text, _⟩
      · rfl
      · rw [left_fails, right_text] at same
        cases same
    · rcases toString_cases presentation right_made with
        ⟨_, _, right_fails⟩ | ⟨_, text', right_text, right_host, right_read, right_parsed⟩
      · rw [left_text, right_fails] at same
        cases same
      · rw [left_text, right_text, Except.ok.injEq] at same
        rw [same, right_read, Option.some.injEq, Prod.mk.injEq] at left_read
        have same_port : right.port = left.port := UInt16.toNat_inj.mp left_read.2
        have parsed := left_parsed 0
        rw [← left_read.1, ← same_port, right_parsed 0] at parsed
        exact (Except.ok.inj parsed).symm
  · intro same
    cases left <;> cases right <;> simp only [withScope, inet.injEq, inet6.injEq,
      reduceCtorEq] at same
    · rw [same]
    · rename_i left right
      rw [SockaddrIn6.mk.injEq] at same
      simp only [toString, family, address, port, same.1, same.2.1, same.2.2.2.1]

end

/-! ## An implementation -/

/-- The bytes of an address in decimal. -/
def dotted (bytes : List UInt8) : List Char :=
  (bytes.dropLast.map fun byte => decimalDigits.render byte.toNat).flatMap (· ++ ['.']) ++
    (bytes.getLast?.map fun byte => decimalDigits.render byte.toNat).getD []

/-- How `inet_pton` reads an IPv4 address, up to a NUL. -/
def readDotted (text : List Char) : Option (BitVec 32) :=
  let parts := pieces ['.'] (text.takeWhile (· ≠ NUL))
  ((parts.1 ++ [parts.2]).mapM decimalDigits.parse).bind fun numbers =>
    if numbers.length = 4 ∧ ∀ number ∈ numbers, number < 256 then
      some (BitVec.ofNat 32 (LittleEndian.value (numbers.map UInt8.ofNat)))
    else none

/-- The bytes of an address in hexadecimal, with all zeros. -/
def hexGroups : List UInt8 → List Char
  | high :: low :: rest =>
      Nat.digitChar (high.toNat / 16) :: Nat.digitChar (high.toNat % 16) ::
        Nat.digitChar (low.toNat / 16) :: Nat.digitChar (low.toNat % 16) ::
          if rest.isEmpty then [] else ':' :: hexGroups rest
  | _ => []

/-- The value of a digit as `hexGroups` writes it. -/
def hexValue (char : Char) : ℕ :=
  if char.isDigit then char.toNat - 48 else char.toNat - 87

/-- The bytes of eight groups of four hexadecimal digits; separators are skipped. -/
def readHexGroups : List Char → List UInt8
  | ':' :: text => readHexGroups text
  | high :: low :: text => UInt8.ofNat (hexValue high * 16 + hexValue low) :: readHexGroups text
  | _ => []

/-- An `inet_ntop` that knows both families and never abbreviates. -/
def inetImplementation : InetNtop := fun family addr size =>
  let written :=
    if family = AF_INET then some (dotted addr)
    else if family = AF_INET6 then some (hexGroups addr)
    else none
  match written with
  | none => .error "Address family not supported by protocol"
  | some text => if text.length < size then .ok text else .error "No space left on device"

/-- The `inet_pton` that goes with it. -/
def readImplementation : InetPton where
  inet := readDotted
  inet6 text :=
    let bytes := readHexGroups (text.takeWhile (· ≠ NUL))
    if bytes.length = 16 then some (BitVec.ofNat 128 (LittleEndian.value bytes)) else none

theorem takeWhile_text {text : List Char} (free : NUL ∉ text) :
    (text ++ [NUL]).takeWhile (· ≠ NUL) = text := by
  rw [List.takeWhile_append_of_pos]
  · simp
  · intro char mem
    simpa using ne_of_mem_of_not_mem mem free

theorem render_length : ∀ n < 256, (decimalDigits.render n).length ≤ 3 := by decide +kernel

theorem render_chars (number : ℕ) :
    ∀ char ∈ decimalDigits.render number, char.isDigit = true := by
  have digits : ∀ d < 10, (decimalDigits.digit d).isDigit = true := by decide
  intro char mem
  rcases decimalDigits.mem_render mem with ⟨d, bound, rfl⟩
  exact digits d bound

theorem dotted_eq (bytes : List UInt8) (nonempty : bytes ≠ []) : dotted bytes =
    (bytes.dropLast.map fun byte => decimalDigits.render byte.toNat).flatMap (· ++ ['.']) ++
     decimalDigits.render (bytes.getLast nonempty).toNat := by
  simp [dotted, List.getLast?_eq_some_getLast nonempty]

theorem dotted_chars (bytes : List UInt8) :
    ∀ char ∈ dotted bytes, char.isDigit = true ∨ char = '.' := by
  intro char mem
  rcases List.mem_append.mp mem with inside | last
  · rcases List.mem_flatMap.mp inside with ⟨front, front_mem, char_mem⟩
    rcases List.mem_map.mp front_mem with ⟨byte, _, rfl⟩
    rcases List.mem_append.mp char_mem with digit | dot
    · exact .inl (render_chars _ char digit)
    · exact .inr (List.mem_singleton.mp dot)
  · cases found : bytes.getLast? with
    | none => simp [found] at last
    | some byte =>
        rw [found, Option.map_some, Option.getD_some] at last
        exact .inl (render_chars _ char last)

theorem dotted_length {bytes : List UInt8} (four : bytes.length = 4) :
    (dotted bytes).length < 16 := by
  obtain ⟨first, second, third, last, rfl⟩ := List.length_eq_four.mp four
  have lengths := fun byte : UInt8 => render_length byte.toNat byte.toNat_lt
  have first_length := lengths first
  have second_length := lengths second
  have third_length := lengths third
  have last_length := lengths last
  simp only [dotted, List.dropLast_cons_cons, List.dropLast_singleton, List.map_cons, List.map_nil,
    List.flatMap_cons, List.flatMap_nil, List.getLast?_cons_cons, List.getLast?_singleton,
    Option.map_some, Option.getD_some, List.length_append, List.length_cons, List.length_nil]
  omega

theorem readDotted_dotted {bytes : List UInt8} (four : bytes.length = 4) :
    readDotted (dotted bytes ++ [NUL]) = some (BitVec.ofNat 32 (LittleEndian.value bytes)) := by
  have nonempty : bytes ≠ [] := by
    rintro rfl
    cases four
  have up_to_nul : (dotted bytes ++ [NUL]).takeWhile (· ≠ NUL) = dotted bytes := by
    apply takeWhile_text
    intro mem
    have none_allowed : ¬ (NUL.isDigit = true ∨ NUL = '.') := by decide
    exact none_allowed (dotted_chars bytes _ mem)
  have no_dot : ∀ number, '.' ∉ decimalDigits.render number := by
    intro number mem
    exact absurd (render_chars number _ mem) (by decide)
  have parts : pieces ['.'] (dotted bytes) =
      (bytes.dropLast.map fun byte => decimalDigits.render byte.toNat,
        decimalDigits.render (bytes.getLast nonempty).toNat) := by
    rw [dotted_eq bytes nonempty]
    apply Pieces.eq_of_parts (by simp) _ _ le_rfl
    · intro front mem
      rcases List.mem_map.mp mem with ⟨byte, _, rfl⟩
      exact Before.singleton_iff.mpr (no_dot _)
    · rw [List.singleton_infix_iff]
      exact no_dot _
  have all_bytes : bytes.dropLast.map (fun byte => decimalDigits.render byte.toNat) ++
      [decimalDigits.render (bytes.getLast nonempty).toNat] =
        bytes.map fun byte => decimalDigits.render byte.toNat := by
    conv_rhs => rw [← List.dropLast_append_getLast nonempty]
    simp
  have parsed : (bytes.map fun byte => decimalDigits.render byte.toNat).mapM decimalDigits.parse =
      some (bytes.map UInt8.toNat) := by
    clear four nonempty up_to_nul parts all_bytes
    induction bytes with
    | nil => rfl
    | cons byte bytes ih => simp [decimalDigits.parse_render, ih]
  have small : ∀ number ∈ bytes.map UInt8.toNat, number < 256 := by
    intro number mem
    rcases List.mem_map.mp mem with ⟨byte, _, rfl⟩
    exact byte.toNat_lt
  simp only [readDotted, up_to_nul, parts, all_bytes, parsed, Option.bind_some, List.length_map,
    four, true_and]
  rw [if_pos small]
  simp [Function.comp_def]

theorem digitChar_cases : ∀ d < 16, hexValue (Nat.digitChar d) = d ∧
    Nat.digitChar d ≠ ':' ∧ Nat.digitChar d ≠ ']' ∧ Nat.digitChar d ≠ NUL := by
  decide

theorem mem_hexGroups (bytes : List UInt8) : ∀ char ∈ hexGroups bytes,
    char = ':' ∨ ∃ d < 16, char = Nat.digitChar d := by
  fun_induction hexGroups bytes with
  | case1 high low rest ih =>
      have high_bound := high.toNat_lt
      have low_bound := low.toNat_lt
      intro char mem
      simp only [List.mem_cons] at mem
      rcases mem with rfl | rfl | rfl | rfl | later
      · exact .inr ⟨_, by omega, rfl⟩
      · exact .inr ⟨_, by omega, rfl⟩
      · exact .inr ⟨_, by omega, rfl⟩
      · exact .inr ⟨_, by omega, rfl⟩
      · split at later
        · cases later
        · rcases List.mem_cons.mp later with colon | inside
          · exact .inl colon
          · exact ih char inside
  | case2 => simp

theorem readHexGroups_digits {high low : ℕ} (high_bound : high < 16) (low_bound : low < 16)
    (text : List Char) :
    readHexGroups (Nat.digitChar high :: Nat.digitChar low :: text) =
      UInt8.ofNat (high * 16 + low) :: readHexGroups text := by
  have other : Nat.digitChar high ≠ ':' := (digitChar_cases high high_bound).2.1
  rw [readHexGroups]
  · rw [(digitChar_cases high high_bound).1, (digitChar_cases low low_bound).1]
  · exact other

theorem readHexGroups_byte (byte : UInt8) (text : List Char) :
    readHexGroups (Nat.digitChar (byte.toNat / 16) :: Nat.digitChar (byte.toNat % 16) :: text) =
      byte :: readHexGroups text := by
  have bound := byte.toNat_lt
  have whole : byte.toNat / 16 * 16 + byte.toNat % 16 = byte.toNat := by omega
  rw [readHexGroups_digits (by omega) (by omega), whole]
  simp

theorem readHexGroups_hexGroups {bytes : List UInt8} (even : bytes.length % 2 = 0) :
    readHexGroups (hexGroups bytes) = bytes := by
  fun_induction hexGroups bytes with
  | case1 high low rest ih =>
      rw [readHexGroups_byte, readHexGroups_byte]
      split
      · rename_i empty
        rw [List.isEmpty_iff.mp empty]
        rfl
      · rw [readHexGroups, ih]
        simp only [List.length_cons] at even
        omega
  | case2 bytes short =>
      match bytes, short, even with
      | [], _, _ => rfl
      | [byte], _, even => simp at even
      | high :: low :: rest, short, _ => exact absurd rfl (short high low rest)

theorem hexGroups_length (bytes : List UInt8) :
    2 * (hexGroups bytes).length ≤ 5 * bytes.length - 2 := by
  fun_induction hexGroups bytes with
  | case1 high low rest ih =>
      simp only [List.length_cons]
      split
      · simp
        omega
      · rename_i nonempty
        have positive : 0 < rest.length := by
          rw [List.isEmpty_iff] at nonempty
          exact List.length_pos_iff.mpr nonempty
        simp only [List.length_cons]
        omega
  | case2 => simp

theorem implementation_presentation : Presentation inetImplementation readImplementation := by
  constructor
  case inet =>
    intro address
    have bound : address.toNat < 256 ^ 4 := address.isLt
    have four : (LittleEndian.bytes 4 address.toNat).length = 4 := by simp
    refine ⟨dotted (LittleEndian.bytes 4 address.toNat), dotted_length four, dotted_chars _, ?_, ?_⟩
    · intro size fits
      simp [inetImplementation, fits]
    · simp [readImplementation, readDotted_dotted four, LittleEndian.value_bytes bound]
  case inet6 =>
    intro address
    have bound : address.toNat < 256 ^ 16 := address.isLt
    have sixteen : (LittleEndian.bytes 16 address.toNat).length = 16 := by simp
    have no_bracket : ']' ∉ hexGroups (LittleEndian.bytes 16 address.toNat) := by
      intro mem
      rcases mem_hexGroups _ _ mem with colon | ⟨d, small, digit⟩
      · exact absurd colon (by decide)
      · exact (digitChar_cases d small).2.2.1 digit.symm
    have no_nul : NUL ∉ hexGroups (LittleEndian.bytes 16 address.toNat) := by
      intro mem
      rcases mem_hexGroups _ _ mem with colon | ⟨d, small, digit⟩
      · exact absurd colon (by decide)
      · exact (digitChar_cases d small).2.2.2 digit.symm
    have length := hexGroups_length (LittleEndian.bytes 16 address.toNat)
    rw [sixteen] at length
    refine ⟨hexGroups (LittleEndian.bytes 16 address.toNat), by omega, ?_, no_bracket, no_nul,
      ?_, ?_⟩
    · simp [LittleEndian.bytes, hexGroups]
    · intro size fits
      have other : AF_INET6 ≠ AF_INET := by decide
      simp [inetImplementation, other, fits]
    · simp only [readImplementation, takeWhile_text no_nul,
        readHexGroups_hexGroups (show (LittleEndian.bytes 16 address.toNat).length % 2 = 0 by simp)]
      simp [LittleEndian.value_bytes bound]
  case unsupported =>
    intro family address size not_inet not_inet6
    refine ⟨"Address family not supported by protocol", ?_⟩
    simp only [inetImplementation, if_neg not_inet, if_neg not_inet6]

/-- However a handle was made, `toString` throws for the default handle only. Any other text is read
back as the handle, but for scope id and flow information, and is shared by no other handle. -/
theorem toString_round_trip {inet_ntop : InetNtop} {inetPton : InetPton}
    (presentation : Presentation inet_ntop inetPton) {handle : AddressHandle}
    (made : Made inetPton handle) :
    ((∃ exception, handle.toString inet_ntop = .error exception) ↔ handle = .default) ∧
      (∀ text, handle.toString inet_ntop = .ok text → Readable inetPton handle text) ∧
      ∀ other, Made inetPton other → (handle.toString inet_ntop = other.toString inet_ntop ↔
        handle.withScope 0 = other.withScope 0) := by
  refine ⟨?_, ?_, fun other other_made => toString_eq_iff presentation made other_made⟩
  · rcases toString_cases presentation made with
      ⟨is_default, message, fails⟩ | ⟨not_default, text, found, _⟩
    · simp [is_default ▸ fails, is_default]
    · simp [found, not_default]
  · intro text found
    rcases toString_cases presentation made with ⟨_, message, fails⟩ | ⟨_, text', found', readable⟩
    · rw [fails] at found
      cases found
    · rw [found', Except.ok.injEq] at found
      exact found ▸ readable

/-- For `AddressHandle{"127.0.0.1", 1234}`. -/
theorem toString_round_trip_localhost :
    Readable readImplementation
      (.inet { sin_family := AF_INET, sin_addr := 0x0100007F, sin_port := htons 1234 })
      "127.0.0.1:1234".toList :=
  (toString_round_trip implementation_presentation
    (.ofSpan (show ofSpan [127, 0, 0, 1] 1234 0 = .ok _ by decide))).2.1 _ (by decide +kernel)

end AddressHandle

end Uvco
