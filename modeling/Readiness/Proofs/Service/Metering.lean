import Readiness.Proofs.Service.Body

/-!
This module contains what an application gets to read under the limit on request bodies, also if it reads on after a
refusal. What counts is the number of bytes that were read so far, whatever messages they came in.
-/

namespace Readiness
namespace Http

/-- The bytes of request body that messages carry together. -/
def bodyBytes (msgs : List Incoming) : Nat :=
  (msgs.map Incoming.size).sum

theorem bodyBytes_append (msgs msgs' : List Incoming) :
    bodyBytes (msgs ++ msgs') = bodyBytes msgs + bodyBytes msgs' := by
  simp [bodyBytes]

theorem bodyBytes_cons (msg : Incoming) (msgs : List Incoming) :
    bodyBytes (msg :: msgs) = msg.size + bodyBytes msgs := by
  simp [bodyBytes]

theorem bodyBytes_singleton (msg : Incoming) : bodyBytes [msg] = msg.size := by
  simp [bodyBytes]

theorem bodyBytes_take_mono {j k : Nat} (h : j ≤ k) (msgs : List Incoming) :
    bodyBytes (msgs.take j) ≤ bodyBytes (msgs.take k) := by
  obtain ⟨d, rfl⟩ := Nat.exists_eq_add_of_le h
  rw [List.take_add, bodyBytes_append]
  omega

namespace BodyLimit

/-- What reading a message gives after others have been read. -/
def verdict (limit : Int) (before : List Incoming) (msg : Incoming) : Except TooLarge Incoming :=
  if msg.kind = .request ∧ limit < bodyBytes (before ++ [msg]) then .error ⟨limit⟩ else .ok msg

/-- The messages among the results of reads. -/
def handed (reads : List (Except TooLarge Incoming)) : List Incoming :=
  reads.filterMap Except.toOption

section

variable {limit : Int} {before : List Incoming} {msg : Incoming}

theorem verdict_of_le (h : bodyBytes (before ++ [msg]) ≤ limit) : verdict limit before msg = .ok msg := by
  unfold verdict
  rw [if_neg]
  rintro ⟨_, hlt⟩
  omega

/-- Only a piece of a body can take the count over the limit. -/
theorem verdict_of_lt (hbefore : bodyBytes before ≤ limit) (h : limit < bodyBytes (before ++ [msg])) :
    verdict limit before msg = .error ⟨limit⟩ := by
  unfold verdict
  rw [if_pos]
  refine ⟨?_, h⟩
  rw [bodyBytes_append, bodyBytes_singleton] at h
  have hsize : msg.size ≠ 0 := by omega
  cases hkind : msg.kind with
  | request => rfl
  | _ => simp [Incoming.size, hkind] at hsize

theorem handed_verdict (h : limit < bodyBytes (before ++ [msg])) (reads : List (Except TooLarge Incoming)) :
    bodyBytes (handed (verdict limit before msg :: reads)) = bodyBytes (handed reads) := by
  unfold verdict
  cases hkind : msg.kind with
  | request =>
    rw [if_pos ⟨rfl, h⟩]
    rfl
  | _ =>
    have hsize : msg.size = 0 := by simp [Incoming.size, hkind]
    simp [handed, Except.toOption, bodyBytes_cons, hsize]

end

variable (limit : Int) (before : List Incoming)

/-- The meter keeps count of all bytes read, those that it refuses included. -/
theorem read_eq (msg : Incoming) :
    read (some ⟨limit, bodyBytes before⟩) msg
      = (verdict limit before msg, some ⟨limit, bodyBytes (before ++ [msg])⟩) := by
  unfold read verdict
  rw [bodyBytes_append, bodyBytes_singleton]
  dsimp only [Meter.read]
  cases hkind : msg.kind with
  | request =>
    dsimp only
    split <;> simp_all
  | _ => simp [Incoming.size, hkind]

theorem readAll_cons (msg : Incoming) (msgs : List Incoming) :
    readAll (some ⟨limit, bodyBytes before⟩) (msg :: msgs)
      = verdict limit before msg :: readAll (some ⟨limit, bodyBytes (before ++ [msg])⟩) msgs := by
  rw [readAll, read_eq]

theorem length_readAll (meter : Option Meter) (msgs : List Incoming) : (readAll meter msgs).length = msgs.length := by
  induction msgs generalizing meter with
  | nil => rfl
  | cons msg msgs ih => rw [readAll, List.length_cons, List.length_cons, ih]

theorem readAll_none (msgs : List Incoming) : readAll none msgs = msgs.map .ok := by
  induction msgs with
  | nil => rfl
  | cons msg msgs ih => rw [readAll, List.map_cons, ← ih, read]

/-- Each read takes one message, also after a refusal. -/
theorem getElem?_readAll (msgs : List Incoming) (k : Nat) :
    (readAll (some ⟨limit, bodyBytes before⟩) msgs)[k]? = msgs[k]?.map (verdict limit (before ++ msgs.take k)) := by
  induction msgs generalizing before k with
  | nil => rfl
  | cons msg msgs ih =>
    rw [readAll_cons]
    cases k with
    | zero => simp
    | succ k =>
      rw [List.getElem?_cons_succ, List.getElem?_cons_succ, ih, List.take_succ_cons, List.append_assoc,
        List.singleton_append]

/-- Nothing more is handed over once the limit is passed. -/
theorem handed_le (msgs : List Incoming) :
    (bodyBytes before + bodyBytes (handed (readAll (some ⟨limit, bodyBytes before⟩) msgs)) : Int)
      ≤ max (bodyBytes before : Int) limit := by
  induction msgs generalizing before with
  | nil =>
    have hnone : bodyBytes (handed (readAll (some ⟨limit, bodyBytes before⟩) [])) = 0 := rfl
    omega
  | cons msg msgs ih =>
    have hrest := ih (before ++ [msg])
    have hbytes := bodyBytes_append before [msg]
    rw [readAll_cons]
    by_cases h : limit < bodyBytes (before ++ [msg])
    . rw [handed_verdict h]
      omega
    . rw [verdict_of_le (by omega)]
      have hcons : bodyBytes (handed (.ok msg :: readAll (some ⟨limit, bodyBytes (before ++ [msg])⟩) msgs))
          = msg.size + bodyBytes (handed (readAll (some ⟨limit, bodyBytes (before ++ [msg])⟩) msgs)) :=
        bodyBytes_cons _ _
      rw [bodyBytes_singleton] at hbytes
      omega

variable {limit before}

theorem readUntilRefused_of_le {msgs : List Incoming} (h : bodyBytes (before ++ msgs) ≤ limit) :
    readUntilRefused (some ⟨limit, bodyBytes before⟩) msgs = (msgs.map .ok, []) := by
  induction msgs generalizing before with
  | nil => rfl
  | cons msg msgs ih =>
    have hcons : before ++ msg :: msgs = before ++ [msg] ++ msgs := by simp
    rw [hcons] at h
    have hle := bodyBytes_append (before ++ [msg]) msgs
    rw [readUntilRefused, read_eq, verdict_of_le (by omega)]
    dsimp only
    rw [ih h]
    rfl

theorem readUntilRefused_of_lt {msgs : List Incoming} (hbefore : bodyBytes before ≤ limit)
    (h : limit < bodyBytes (before ++ msgs)) :
    .error ⟨limit⟩ ∈ (readUntilRefused (some ⟨limit, bodyBytes before⟩) msgs).1 := by
  induction msgs generalizing before with
  | nil =>
    rw [List.append_nil] at h
    omega
  | cons msg msgs ih =>
    have hcons : before ++ msg :: msgs = before ++ [msg] ++ msgs := by simp
    rw [hcons] at h
    rw [readUntilRefused, read_eq]
    by_cases hlt : limit < bodyBytes (before ++ [msg])
    . rw [verdict_of_lt hbefore hlt]
      exact List.mem_singleton.mpr rfl
    . rw [verdict_of_le (by omega)]
      exact List.mem_cons_of_mem _ (ih (by omega) h)

theorem meter?_of_pos (h : 0 < limit) : meter? .http limit = some ⟨limit, bodyBytes []⟩ := by
  simp [meter?, h, bodyBytes]

theorem meter?_eq_none {protocol : Protocol} (h : ¬ (protocol = .http ∧ 0 < limit)) : meter? protocol limit = none := by
  rw [meter?, if_neg h]

theorem getElem?_readAll_of_some {msgs : List Incoming} {k : Nat} {msg : Incoming} (hmsg : msgs[k]? = some msg) :
    (readAll (some ⟨limit, bodyBytes []⟩) msgs)[k]?
      = some (if msg.kind = .request ∧ limit < bodyBytes (msgs.take (k + 1)) then .error ⟨limit⟩ else .ok msg) := by
  rw [getElem?_readAll, hmsg, Option.map_some, verdict, List.nil_append, List.take_add_one, hmsg, Option.toList_some]

/-- A read that was refused had passed the limit, so the next ones do. -/
theorem getElem?_readAll_of_error {msgs : List Incoming} {j k : Nat} {e : TooLarge} {msg : Incoming} (hjk : j ≤ k)
    (he : (readAll (some ⟨limit, bodyBytes []⟩) msgs)[j]? = some (.error e)) (hmsg : msgs[k]? = some msg)
    (hkind : msg.kind = .request) : (readAll (some ⟨limit, bodyBytes []⟩) msgs)[k]? = some (.error ⟨limit⟩) := by
  rw [getElem?_readAll_of_some hmsg, if_pos]
  refine ⟨hkind, ?_⟩
  have hmono := bodyBytes_take_mono (Nat.add_le_add_right hjk 1) msgs
  obtain ⟨first, hfirst⟩ : ∃ first, msgs[j]? = some first := by
    rw [getElem?_readAll, Option.map_eq_some_iff] at he
    obtain ⟨first, hfirst, _⟩ := he
    exact ⟨first, hfirst⟩
  rw [getElem?_readAll_of_some hfirst] at he
  split at he
  . next hlt => omega
  . cases he

theorem exists_drain_iff {σ : Type} (tick : Clock → σ → σ) {ex : Service.Exchange σ}
    (hmeter : ex.meter = meter? .http limit) (hlimit : 0 < limit) (hcomplete : Service.complete ex.inbox = true) :
    (∃ size, (ex.drain tick).2 = .ok size) ↔ Service.bodySize ex.inbox ≤ limit := by
  have hreads := Service.Exchange.reads_drain tick ex (by rw [hmeter]; apply Service.not_over_meter?_zero)
  have hover := Service.over_meter?_iff limit (Service.bodySize ex.inbox)
  rw [← hmeter] at hover
  constructor
  . rintro ⟨size, hsize⟩
    by_contra hlt
    obtain ⟨e, he⟩ := hreads.tooLarge (hover.mpr ⟨hlimit, by omega⟩)
    rw [hsize] at he
    cases he
  . intro hle
    obtain ⟨hsize, _⟩ := hreads.whole (fun ho => by have := hover.mp ho; omega) hcomplete
    exact ⟨_, hsize⟩

/--
Under a limit the bytes are counted that have been read so far, also those that were refused. So what is handed over
never exceeds the limit, no piece of a body is handed over after a refusal, and whether a body can be read depends on
its size alone.
-/
theorem limit_counts_bytes (protocol : Protocol) (limit : Int) (msgs : List Incoming) :
    let meter := meter? protocol limit
    let reads := readAll meter msgs
    reads.length = msgs.length
      ∧ (protocol = .http → 0 < limit →
          (∀ (k : Nat) (msg : Incoming), msgs[k]? = some msg → reads[k]? = some (
              if msg.kind = .request ∧ limit < bodyBytes (msgs.take (k + 1)) then .error ⟨limit⟩ else .ok msg))
          ∧ bodyBytes (handed reads) ≤ limit
          ∧ (∀ (j k : Nat) (e : TooLarge) (msg : Incoming), j ≤ k → reads[j]? = some (.error e) →
              msgs[k]? = some msg → msg.kind = .request → reads[k]? = some (.error ⟨limit⟩))
          ∧ (bodyBytes msgs ≤ limit → readUntilRefused meter msgs = (msgs.map .ok, []))
          ∧ (limit < bodyBytes msgs → .error ⟨limit⟩ ∈ (readUntilRefused meter msgs).1)
          ∧ ∀ (σ : Type) (tick : Clock → σ → σ) (ex : Service.Exchange σ), ex.meter = meter →
              Service.complete ex.inbox = true →
                ((∃ size, (ex.drain tick).2 = .ok size) ↔ Service.bodySize ex.inbox ≤ limit))
      ∧ (¬ (protocol = .http ∧ 0 < limit) → reads = msgs.map .ok) := by
  intro meter reads
  refine ⟨length_readAll _ _, ?_, ?_⟩
  . rintro rfl hlimit
    have hmeter : meter = some ⟨limit, bodyBytes []⟩ := meter?_of_pos hlimit
    have hnone : (bodyBytes [] : Int) ≤ limit := Int.le_of_lt hlimit
    refine ⟨?_, ?_, ?_, ?_, ?_, ?_⟩
    . intro k msg hmsg
      unfold reads
      rw [hmeter]
      exact getElem?_readAll_of_some hmsg
    . have hle := handed_le limit [] msgs
      unfold reads
      rw [hmeter]
      omega
    . intro j k e msg
      unfold reads
      rw [hmeter]
      exact getElem?_readAll_of_error
    . intro hle
      rw [hmeter]
      exact readUntilRefused_of_le hle
    . intro hlt
      rw [hmeter]
      exact readUntilRefused_of_lt hnone hlt
    . intro σ tick ex hex
      exact exists_drain_iff tick hex hlimit
  . intro hnot
    unfold reads meter
    rw [meter?_eq_none hnot, readAll_none]

/-- Two bytes, then three, are too many for a limit of four; so is the empty piece after them. -/
theorem limit_counts_bytes_empty_piece :
    let piece (bytes : Option Bytes) (more : Bool) : Incoming := { kind := .request, body := bytes, more := some more }
    let msgs := [
      piece (some [1, 2]) true,
      { kind := .other "http.extension" },
      piece (some [3, 4, 5]) true,
      piece none false]
    let ex : Service.Exchange Unit :=
      ⟨⟨0, 0⟩, (), [⟨none, piece (some [1, 2, 3]) true⟩, ⟨none, piece (some [4]) false⟩], meter? .http 4, 0⟩
    (readAll (meter? .http 4) msgs)[1]? = some (.ok { kind := .other "http.extension" })
      ∧ (readAll (meter? .http 4) msgs)[2]? = some (.error ⟨4⟩)
      ∧ (readAll (meter? .http 4) msgs)[3]? = some (.error ⟨4⟩)
      ∧ bodyBytes (handed (readAll (meter? .http 4) msgs)) ≤ (4 : Int)
      ∧ .error ⟨4⟩ ∈ (readUntilRefused (meter? .http 4) msgs).1
      ∧ readUntilRefused (meter? .http 5) msgs = (msgs.map .ok, [])
      ∧ (∃ size, (ex.drain fun _ s => s).2 = .ok size) ∧ readAll (meter? .websocket 4) msgs = msgs.map .ok := by
  intro piece msgs ex
  obtain ⟨_, hhttp, _⟩ := limit_counts_bytes .http 4 msgs
  obtain ⟨heach, hhanded, hlater, _, hrefused, hdrain⟩ := hhttp rfl (by decide)
  obtain ⟨_, hhigher, _⟩ := limit_counts_bytes .http 5 msgs
  obtain ⟨_, _, _, hwhole, _⟩ := hhigher rfl (by decide)
  obtain ⟨_, _, hfree⟩ := limit_counts_bytes .websocket 4 msgs
  have hthird := heach 2 (piece (some [3, 4, 5]) true) rfl
  exact ⟨heach 1 { kind := .other "http.extension" } rfl, hthird,
    hlater 2 3 _ (piece none false) (by decide) hthird rfl rfl, hhanded, hrefused (by decide), hwhole (by decide),
    (hdrain Unit _ ex rfl rfl).mpr (by decide), hfree (by decide)⟩

end BodyLimit
end Http
end Readiness
