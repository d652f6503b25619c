import AiPlatform.ForwardedIdentity
import AiPlatform.IpAddresses
import AiPlatform.Uuid

/-!
What `app/core/middleware.py` makes of a request before it is handled: the id of
the request and the address it is taken to come from, which the audit log records.
The peer of a connection is what the server hands over as `request.client.host`.
-/

namespace AiPlatform.Requests

open Agents (truthy strip)
open Identity (Headers)

structure Request where
  /-- `request.client.host` -/
  client : Option String
  headers : Headers

/-- `_peer_is_trusted`; a network that cannot be read is logged and skipped. -/
def peerIsTrusted (peer : Option String) (trustedCidrs : List String) : Bool :=
  match peer.filter truthy with
  | none => false
  | some peer =>
      match ipAddress peer with
      | none => false
      | some address => trustedCidrs.any fun cidr =>
          (ipNetwork cidr).any fun network => network.contains address

/-- `forwarded.split(",")[0].strip()` -/
def leftMost (forwarded : String) : String :=
  strip (String.ofList (forwarded.toList.takeWhile (· ≠ ',')))

def resolveClientIp (request : Request) (trustedCidrs : List String) : Option String :=
  let peer := request.client
  if peerIsTrusted peer trustedCidrs then
    match (request.headers.get "x-forwarded-for").filter truthy with
    | some forwarded => some (leftMost forwarded)
    | none => peer
  else peer

structure RequestContext where
  requestId : String
  clientIp : Option String

/-- What `dispatch` binds; `minted` is the id that `new_request_id` would draw. -/
def dispatch (request : Request) (trustedCidrs : List String) (minted : Uuid) : RequestContext where
  requestId := ((request.headers.get "X-Request-ID").filter truthy).getD minted.hex
  clientIp := resolveClientIp request trustedCidrs

/-- The address of the peer of a connection: an entry of its own in a list of them. -/
structure PeerAddress where
  text : String
  named : text ≠ ""
  entry : ∀ c ∈ text.toList, c ≠ ',' ∧ Agents.isSpace c = false

/-- A request on its way: the peer that sent it and its `X-Forwarded-For`. -/
structure Forwarded where
  sender : PeerAddress
  forwardedFor : Option String

/-- `$proxy_add_x_forwarded_for`: the peer's address, after what it sent. -/
def proxyAddXForwardedFor (forwarded : Forwarded) : String :=
  match forwarded.forwardedFor with
  | some sent => sent ++ ", " ++ forwarded.sender.text
  | none => forwarded.sender.text

def proxied (forwarded : Forwarded) (proxy : PeerAddress) : Forwarded :=
  ⟨proxy, some (proxyAddXForwardedFor forwarded)⟩

def arrives (caller : PeerAddress) (sent : Option String) (proxies : List PeerAddress) : Forwarded :=
  proxies.foldl proxied ⟨caller, sent⟩

def Forwarded.request (forwarded : Forwarded) (others : Headers) : Request where
  client := some forwarded.sender.text
  headers := (forwarded.forwardedFor.map fun value => ("x-forwarded-for", value)).toList ++ others

def firstSent (caller : PeerAddress) : Option String → String
  | some sent => leftMost sent
  | none => caller.text

section Chains

variable {caller : PeerAddress} {sent : Option String} {proxies : List PeerAddress}

theorem takeWhile_append (text rest : List Char) :
    (text ++ ',' :: rest).takeWhile (fun c => decide (c ≠ ',')) =
      text.takeWhile (fun c => decide (c ≠ ',')) := by
  induction text with
  | nil => simp
  | cons c chars ih =>
      by_cases comma : c = ','
      · simp [comma]
      · simp only [List.cons_append, List.takeWhile_cons, comma, ne_eq, not_false_eq_true,
          decide_true, if_true, ih]

theorem leftMost_append (text address : String) :
    leftMost (text ++ ", " ++ address) = leftMost text := by
  have chars : (text ++ ", " ++ address).toList = text.toList ++ ',' :: ' ' :: address.toList := by
    simp
  rw [leftMost, leftMost, chars, takeWhile_append]

theorem dropWhile_entry {chars : List Char} (entry : ∀ c ∈ chars, Agents.isSpace c = false) :
    chars.dropWhile Agents.isSpace = chars := by
  cases chars with
  | nil => rfl
  | cons c rest => simp [entry c (List.mem_cons_self ..)]

theorem takeWhile_whole {chars : List Char} (entry : ∀ c ∈ chars, c ≠ ',') :
    chars.takeWhile (fun c => decide (c ≠ ',')) = chars := by
  induction chars with
  | nil => rfl
  | cons c rest ih =>
      have other : c ≠ ',' := entry c (List.mem_cons_self ..)
      have tail := ih fun d member => entry d (List.mem_cons_of_mem _ member)
      simp only [List.takeWhile_cons, other, ne_eq, not_false_eq_true, decide_true, if_true, tail]

theorem leftMost_address (address : PeerAddress) : leftMost address.text = address.text := by
  have spaces : ∀ c ∈ address.text.toList, Agents.isSpace c = false :=
    fun c member => (address.entry c member).2
  rw [leftMost, takeWhile_whole fun c member => (address.entry c member).1, strip,
    String.toList_ofList, dropWhile_entry spaces, dropWhile_entry, List.reverse_reverse,
    String.ofList_toList]
  intro c member
  exact spaces c (List.mem_reverse.mp member)

theorem firstSent_proxied (forwarded : Forwarded) :
    leftMost (proxyAddXForwardedFor forwarded) =
      firstSent forwarded.sender forwarded.forwardedFor := by
  unfold proxyAddXForwardedFor
  cases forwarded.forwardedFor with
  | none => exact leftMost_address _
  | some text => exact leftMost_append text _

theorem proxyAdd_named (forwarded : Forwarded) : proxyAddXForwardedFor forwarded ≠ "" := by
  unfold proxyAddXForwardedFor
  cases forwarded.forwardedFor with
  | none => exact forwarded.sender.named
  | some text =>
      intro empty
      have chars := congrArg String.toList empty
      simp at chars

theorem foldl_proxied (inner : List PeerAddress) (forwarded : Forwarded) {header : String}
    (same : forwarded.forwardedFor = some header) (named : header ≠ "") :
    ∃ last, (inner.foldl proxied forwarded).forwardedFor = some last ∧ last ≠ "" ∧
      leftMost last = leftMost header := by
  induction inner generalizing forwarded header with
  | nil => exact ⟨header, same, named, rfl⟩
  | cons proxy rest ih =>
      obtain ⟨last, found, nonempty, first⟩ :=
        ih (proxied forwarded proxy) rfl (proxyAdd_named forwarded)
      refine ⟨last, found, nonempty, first.trans ?_⟩
      rw [firstSent_proxied, same]
      rfl

theorem foldl_sender (inner : List PeerAddress) (forwarded : Forwarded) :
    (inner.foldl proxied forwarded).sender ∈ forwarded.sender :: inner := by
  induction inner generalizing forwarded with
  | nil => exact List.mem_cons_self ..
  | cons proxy rest ih => exact List.mem_cons_of_mem _ (ih (proxied forwarded proxy))

-- The proxies are the trusted ones in front of the platform, and the caller is the
-- first hop that is not one of them.
theorem source_ip_is_caller_iff (trustedCidrs : List String) (caller : PeerAddress)
    (untrusted : peerIsTrusted (some caller.text) trustedCidrs = false)
    (proxies : List PeerAddress)
    (trusted : ∀ proxy ∈ proxies, peerIsTrusted (some proxy.text) trustedCidrs = true)
    (sent : Option String) (others : Headers) :
    resolveClientIp ((arrives caller sent proxies).request others) trustedCidrs =
        some caller.text ↔
      proxies = [] ∨ firstSent caller sent = caller.text := by
  cases proxies with
  | nil =>
      have direct : resolveClientIp ((arrives caller sent []).request others) trustedCidrs =
          some caller.text := by
        simp only [resolveClientIp, arrives, List.foldl_nil, Forwarded.request, untrusted,
          Bool.false_eq_true, if_false]
      exact ⟨fun _ => .inl rfl, fun _ => direct⟩
  | cons outermost inner =>
      have start := proxyAdd_named ⟨caller, sent⟩
      obtain ⟨header, found, named, first⟩ :=
        foldl_proxied inner (proxied ⟨caller, sent⟩ outermost) rfl start
      have last := trusted _ (foldl_sender inner (proxied ⟨caller, sent⟩ outermost))
      have lower : "x-forwarded-for".toLower = "x-forwarded-for" := by decide +kernel
      have kept : (some header).filter truthy = some header := by
        simp [Option.filter, truthy, named]
      have recorded : resolveClientIp ((arrives caller sent (outermost :: inner)).request others)
          trustedCidrs = some (leftMost header) := by
        simp only [resolveClientIp, arrives, List.foldl_cons, Forwarded.request, last, found,
          if_true]
        simp [Headers.get, lower, kept]
      rw [recorded, first, firstSent_proxied, Option.some.injEq]
      simp

end Chains

theorem entry_of_all {text : String}
    (checked : (text.toList.all fun c => c ≠ ',' && !Agents.isSpace c) = true) :
    ∀ c ∈ text.toList, c ≠ ',' ∧ Agents.isSpace c = false := by
  intro c listed
  simpa using List.all_eq_true.mp checked c listed

def nginx : PeerAddress := ⟨"10.0.0.2", by decide, entry_of_all (by decide +kernel)⟩

def browser : PeerAddress := ⟨"192.0.2.7", by decide, entry_of_all (by decide +kernel)⟩

theorem source_ip_without_header :
    resolveClientIp ((arrives browser none [nginx]).request []) ["10.0.0.0/8"] =
        some browser.text ↔
      [nginx] = [] ∨ firstSent browser none = browser.text :=
  source_ip_is_caller_iff _ browser (by decide +kernel) [nginx]
    (by simp only [List.mem_singleton, forall_eq]; decide +kernel) none []

/-- The caller names another address, and that one is recorded. -/
theorem caller_chooses_source_ip :
    peerIsTrusted (some browser.text) ["10.0.0.0/8"] = false ∧
      peerIsTrusted (some nginx.text) ["10.0.0.0/8"] = true ∧
      resolveClientIp ((arrives browser (some "203.0.113.9") [nginx]).request []) ["10.0.0.0/8"] =
        some "203.0.113.9" := by
  decide +kernel

end AiPlatform.Requests
