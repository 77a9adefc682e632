import Mathlib.Data.Nat.Notation
import Mathlib.Tactic.ByContra
import Uvco.Exception
import Uvco.Library.Terminator

/-!
# Addresses and name resolution

This file embeds `AddressHandle` and `Resolver` of `uvco/name_resolution.{h,cc}`, and
`callWithNullTerminated` of `uvco/internal/internal_utils.h`.

`inet_pton` and `uv_getaddrinfo` are parameters. They read their arguments up to the
first NUL, and nothing else is assumed of them. A `std::string_view` has no such end: it
is a range of a buffer. What such a function reads of it is the buffer from the start of
the view up to the first NUL, or all that is left if the buffer ends before.
-/

namespace Uvco

/-- What ends a C string. -/
def NUL : Char := Char.ofNat 0

/-- What a function reads that expects a `const char *`: a string with the NUL that ends it, or
without one where memory ends before. -/
abbrev CString := List Char

/-- A `std::string_view`: a range of some buffer. -/
structure StringView where
  memory : List Char
  offset : ℕ
  length : ℕ
  inside : offset + length ≤ memory.length

namespace StringView

variable (view : StringView)

/-- The viewed characters. -/
def contents : List Char :=
  (view.memory.drop view.offset).take view.length

/-- What follows the view in memory. -/
def rest : List Char :=
  (view.memory.drop view.offset).drop view.length

/-- The string at `data()`. -/
def data : CString :=
  readUntil NUL (view.memory.drop view.offset)

/-- The view of a `std::string`, whose buffer ends with a NUL. -/
def ofString (text : List Char) : StringView where
  memory := text ++ [NUL]
  offset := 0
  length := text.length
  inside := by simp

theorem contents_append_rest : view.contents ++ view.rest = view.memory.drop view.offset :=
  List.take_append_drop _ _

theorem data_eq : view.data = readUntil NUL (view.contents ++ view.rest) := by
  rw [contents_append_rest]
  rfl

theorem contents_ofString (text : List Char) : (ofString text).contents = text := by
  simp [contents, ofString]

theorem rest_ofString (text : List Char) : (ofString text).rest = [NUL] := by
  simp [rest, ofString]

/-- A NUL in the viewed characters hides what follows them, or the same follows both views up to
the first NUL. -/
def SameTail (left right : StringView) : Prop :=
  NUL ∈ left.contents ∨ readUntil NUL left.rest = readUntil NUL right.rest

theorem data_eq_iff {left right : StringView} (same : left.contents = right.contents) :
    left.data = right.data ↔ left.SameTail right := by
  rw [data_eq, data_eq, ← same]
  exact ReadUntil.append_eq_iff _ _ _

/-- The view is followed by a NUL. -/
def Terminated : Prop :=
  view.rest.head? = some NUL

theorem terminated_ofString (text : List Char) : (ofString text).Terminated := by
  simp [Terminated, rest_ofString]

/-- Two views that are followed by a NUL do not differ in what follows. -/
theorem Terminated.sameTail {left right : StringView} (left_ends : left.Terminated)
    (right_ends : right.Terminated) : left.SameTail right := by
  rcases List.head?_eq_some_iff.mp left_ends with ⟨left_rest, left_eq⟩
  rcases List.head?_eq_some_iff.mp right_ends with ⟨right_rest, right_eq⟩
  right
  simp [left_eq, right_eq, readUntil]

end StringView

/-- `callWithNullTerminated`: the string is copied unless a NUL follows the view. It looks at the
first character behind the view, so there must be one. -/
def callWithNullTerminated {R : Type} (view : StringView) (f : CString → R) : Option R :=
  view.rest.head?.map fun next =>
    if next = NUL then f view.data else f (StringView.ofString view.contents).data

/-- The function that is called reads the viewed characters only. -/
theorem callWithNullTerminated_eq {R : Type} {view : StringView} (f : CString → R) {next : Char}
    (followed : view.rest.head? = some next) :
    callWithNullTerminated view f = some (f (StringView.ofString view.contents).data) := by
  simp only [callWithNullTerminated, followed, Option.map_some, Option.some.injEq]
  split
  · rename_i ends
    have view_ends : view.Terminated := by rw [StringView.Terminated, followed, ends]
    congr 1
    apply (StringView.data_eq_iff (StringView.contents_ofString view.contents).symm).mpr
    exact view_ends.sameTail (StringView.terminated_ofString view.contents)
  · rfl

/-- Any address family. -/
def AF_UNSPEC : Int := 0

/-- The address family of IPv4. -/
def AF_INET : Int := 2

/-- As on Linux. -/
def AF_INET6 : Int := 10

/-- The type of stream sockets. -/
def SOCK_STREAM : Int := 1

/-- `struct sockaddr_in`; addresses and ports are in network byte order. -/
structure SockaddrIn where
  sin_family : Int := AF_UNSPEC
  sin_addr : BitVec 32 := 0
  sin_port : UInt16 := 0
deriving DecidableEq, Repr

/-- `struct sockaddr_in6` -/
structure SockaddrIn6 where
  sin6_family : Int := AF_UNSPEC
  sin6_port : UInt16 := 0
  sin6_flowinfo : UInt32 := 0
  sin6_addr : BitVec 128 := 0
  sin6_scope_id : UInt32 := 0
deriving DecidableEq, Repr

/-- What a `const struct sockaddr *` refers to, by its `sa_family`. -/
inductive Sockaddr where
  | inet (address : SockaddrIn)
  | inet6 (address : SockaddrIn6)
  | other (family : Int)
deriving DecidableEq, Repr

/-- `htons()`, on a machine that stores the low byte first. -/
def htons (port : UInt16) : UInt16 :=
  port <<< 8 ||| port >>> 8

/-- `inet_pton`, with the address if it returns 1. -/
structure InetPton where
  inet : CString → Option (BitVec 32)
  inet6 : CString → Option (BitVec 128)

/-- The variant `addr_`. -/
inductive AddressHandle where
  | inet (address : SockaddrIn)
  | inet6 (address : SockaddrIn6)
deriving DecidableEq, Repr

namespace AddressHandle

/-- `AddressHandle() = default`. -/
def default : AddressHandle :=
  .inet {}

/-- `AddressHandle(std::string_view ip, uint16_t port, uint32_t v6scope)`. -/
def ofStringView (inetPton : InetPton) (ip : StringView) (port : UInt16) (v6scope : UInt32) :
    Except UvcoException AddressHandle :=
  if ':' ∈ ip.contents then
    match inetPton.inet6 ip.data with
    | none => .error (.ofMessage ("invalid IPv6 address: " ++ String.ofList ip.contents))
    | some ipAddr =>
        .ok (.inet6 {
          sin6_family := AF_INET6
          sin6_addr := ipAddr
          sin6_port := htons port
          sin6_scope_id := v6scope })
  else
    match inetPton.inet ip.data with
    | none => .error (.ofMessage ("invalid IPv4 address: " ++ String.ofList ip.contents))
    | some ipAddr =>
        .ok (.inet { sin_family := AF_INET, sin_addr := ipAddr, sin_port := htons port })

/-- `AddressHandle(const struct addrinfo *ai)`. -/
def ofAddrinfo : Sockaddr → AddressHandle
  | .inet address => .inet address
  | .inet6 address => .inet6 address
  | .other _ => default

/-- `AddressHandle(const struct sockaddr *sa)`. -/
def ofSockaddr : Sockaddr → Except UvcoException AddressHandle
  | .inet address => .ok (.inet address)
  | .inet6 address => .ok (.inet6 address)
  | .other family => .error (.ofMessage s!"unknown address family {family}")

/-- `sockaddr()`. -/
def sockaddr : AddressHandle → Sockaddr
  | .inet address => .inet address
  | .inet6 address => .inet6 address

theorem ofSockaddr_sockaddr (address : AddressHandle) :
    ofSockaddr address.sockaddr = .ok address := by
  cases address <;> rfl

end AddressHandle

/-- The arguments of `uv_getaddrinfo`. -/
structure Lookup where
  node : CString
  service : CString
  ai_family : Int
  ai_socktype : Int
deriving DecidableEq, Repr

/-- `uv_getaddrinfo`: the status and the result that its callback receives, if it is called. -/
abbrev Getaddrinfo := Lookup → Option (Int × Sockaddr)

namespace Resolver

/-- What `onAddrinfo` and `await_resume` make of the result. -/
def finish (status : Int) (result : Sockaddr) : Option (Except UvcoException AddressHandle) :=
  -- A cancelled lookup resumes nobody.
  if status = UV_ECANCELED then none
  else if status ≠ 0 then some (.error (.ofStatus status "getaddrinfo()"))
  else some (.ok (.ofAddrinfo result))

/-- `gai(std::string_view host, std::string_view port, int af_hint)`: what it looks up, and how it
ends if it does. -/
def gai (uvGetaddrinfo : Getaddrinfo) (host port : StringView) (af_hint : Int) :
    Lookup × Option (Except UvcoException AddressHandle) :=
  let lookup : Lookup :=
    { node := host.data, service := port.data, ai_family := af_hint, ai_socktype := SOCK_STREAM }
  (lookup, (uvGetaddrinfo lookup).bind fun (status, result) => finish status result)

/-- `gai(std::string_view host, uint16_t port, int af_hint)`. -/
def gaiPort (uvGetaddrinfo : Getaddrinfo) (host : StringView) (port : UInt16) (af_hint : Int) :
    Lookup × Option (Except UvcoException AddressHandle) :=
  let portStr := StringView.ofString (toString port.toNat).toList
  gai uvGetaddrinfo host portStr af_hint

end Resolver

/-! ## What the calls depend on -/

/-- The address and the error depend on what follows the view, up to the first NUL. -/
theorem AddressHandle.ofStringView_eq_iff {ip ip' : StringView}
    (same : ip.contents = ip'.contents) (port : UInt16) (v6scope : UInt32) :
    (∀ inetPton, ofStringView inetPton ip port v6scope =
      ofStringView inetPton ip' port v6scope) ↔ ip.SameTail ip' := by
  rw [← StringView.data_eq_iff same]
  constructor
  · intro equal
    -- A function that accepts nothing but the first of the two strings.
    specialize equal
      { inet := fun text => if text = ip.data then some 0 else none
        inet6 := fun text => if text = ip.data then some 0 else none }
    apply Eq.symm
    by_contra differs
    by_cases colon : ':' ∈ ip'.contents
    · simp [ofStringView, same, colon, differs] at equal
    · simp [ofStringView, same, colon, differs] at equal
  · intro data_eq inetPton
    unfold ofStringView
    rw [same, data_eq]

namespace Resolver

variable {host host' port port' : StringView}

/-- The lookup depends on what follows either view, up to the first NUL. -/
theorem gai_eq_iff (same_host : host.contents = host'.contents)
    (same_port : port.contents = port'.contents) (af_hint : Int) :
    (∀ uvGetaddrinfo, gai uvGetaddrinfo host port af_hint =
      gai uvGetaddrinfo host' port' af_hint) ↔ host.SameTail host' ∧ port.SameTail port' := by
  rw [← StringView.data_eq_iff same_host, ← StringView.data_eq_iff same_port]
  constructor
  · intro equal
    have lookup_eq := congrArg Prod.fst (equal fun _ => none)
    simp only [gai, Lookup.mk.injEq] at lookup_eq
    exact ⟨lookup_eq.1, lookup_eq.2.1⟩
  · rintro ⟨host_eq, port_eq⟩ uvGetaddrinfo
    unfold gai
    rw [host_eq, port_eq]

/-- A port number becomes a string of its own, which ends with a NUL. -/
theorem gaiPort_eq_iff (same_host : host.contents = host'.contents) (port : UInt16)
    (af_hint : Int) :
    (∀ uvGetaddrinfo, gaiPort uvGetaddrinfo host port af_hint =
      gaiPort uvGetaddrinfo host' port af_hint) ↔ host.SameTail host' := by
  have portStr_ends := StringView.terminated_ofString (toString port.toNat).toList
  unfold gaiPort
  rw [gai_eq_iff same_host rfl]
  exact and_iff_left (portStr_ends.sameTail portStr_ends)

end Resolver

/-- Calls whose views have equal contents behave equally, whatever `inet_pton` and `uv_getaddrinfo`
do with the strings they read, exactly if nothing that follows the views is among these. -/
theorem equal_contents_behave_equally_iff {view view' portView portView' : StringView}
    (same : view.contents = view'.contents) (same_port : portView.contents = portView'.contents)
    (port : UInt16) (v6scope : UInt32) (af_hint : Int) :
    ((∀ inetPton, AddressHandle.ofStringView inetPton view port v6scope =
      AddressHandle.ofStringView inetPton view' port v6scope) ↔ view.SameTail view') ∧
    ((∀ uvGetaddrinfo, Resolver.gai uvGetaddrinfo view portView af_hint =
      Resolver.gai uvGetaddrinfo view' portView' af_hint) ↔
      view.SameTail view' ∧ portView.SameTail portView') ∧
    ((∀ uvGetaddrinfo, Resolver.gaiPort uvGetaddrinfo view port af_hint =
      Resolver.gaiPort uvGetaddrinfo view' port af_hint) ↔ view.SameTail view') :=
  ⟨AddressHandle.ofStringView_eq_iff same port v6scope,
    Resolver.gai_eq_iff same same_port af_hint, Resolver.gaiPort_eq_iff same port af_hint⟩

/-- Views of C strings with equal contents are always treated alike. -/
theorem AddressHandle.ofStringView_eq_of_terminated (inetPton : InetPton) {ip ip' : StringView}
    (same : ip.contents = ip'.contents) (ip_ends : ip.Terminated) (ip'_ends : ip'.Terminated)
    (port : UInt16) (v6scope : UInt32) :
    ofStringView inetPton ip port v6scope = ofStringView inetPton ip' port v6scope :=
  (ofStringView_eq_iff same port v6scope).mpr (ip_ends.sameTail ip'_ends) inetPton

/-- A number of the dotted notation. -/
def octet (digits : List Char) : Option ℕ :=
  let value := digits.foldl (fun value digit => 10 * value + (digit.toNat - '0'.toNat)) 0
  if digits ≠ [] ∧ digits.length ≤ 3 ∧ digits.all Char.isDigit ∧ value ≤ 255 then some value
  else none

/-- `inet_pton(AF_INET, …)`, whose result has the first number in its lowest byte. -/
def dottedQuad (text : CString) : Option (BitVec 32) :=
  match (text.takeWhile (· ≠ NUL)).splitOn '.' |>.mapM octet with
  | some [a, b, c, d] => some (BitVec.ofNat 32 (a + 256 * (b + 256 * (c + 256 * d))))
  | _ => none

/-- The first of two C strings in a buffer. -/
def firstOfTwo : StringView where
  memory := "10.0.0.1".toList ++ NUL :: "53".toList ++ [NUL]
  offset := 0
  length := 8
  inside := by decide

/-- It does not matter what follows the NUL. -/
theorem equal_contents_behave_equally_firstOfTwo :
    AddressHandle.ofStringView ⟨dottedQuad, fun _ => none⟩ firstOfTwo 80 0 =
      AddressHandle.ofStringView ⟨dottedQuad, fun _ => none⟩
        (.ofString "10.0.0.1".toList) 80 0 := by
  have same : firstOfTwo.contents = (StringView.ofString "10.0.0.1".toList).contents := by decide
  have ends : firstOfTwo.Terminated := by
    unfold StringView.Terminated
    decide
  have no_difference := ends.sameTail (StringView.terminated_ofString "10.0.0.1".toList)
  exact (equal_contents_behave_equally_iff same same 80 0 AF_UNSPEC).1.mpr no_difference _

/-- The first eight of the characters `10.0.0.123`. -/
def insideLongerText : StringView where
  memory := "10.0.0.123".toList ++ [NUL]
  offset := 0
  length := 8
  inside := by decide

/-- The address `10.0.0.1` is taken for `10.0.0.123` if it is a part of the latter in memory. -/
theorem insideLongerText_misread :
    insideLongerText.contents = (StringView.ofString "10.0.0.1".toList).contents ∧
      AddressHandle.ofStringView ⟨dottedQuad, fun _ => none⟩ insideLongerText 80 0 ≠
        AddressHandle.ofStringView ⟨dottedQuad, fun _ => none⟩
          (StringView.ofString "10.0.0.1".toList) 80 0 := by
  refine ⟨by decide, ?_⟩
  have longer : AddressHandle.ofStringView ⟨dottedQuad, fun _ => none⟩ insideLongerText 80 0 =
      .ok (.inet { sin_family := AF_INET, sin_addr := 0x7b00000a, sin_port := htons 80 }) := by
    rfl
  have alone : AddressHandle.ofStringView ⟨dottedQuad, fun _ => none⟩
      (StringView.ofString "10.0.0.1".toList) 80 0 =
      .ok (.inet { sin_family := AF_INET, sin_addr := 0x0100000a, sin_port := htons 80 }) := by
    rfl
  rw [longer, alone]
  simp

end Uvco
