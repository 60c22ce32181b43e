import ModbusBridge.EmbeddedIo.Stalling
import ModbusBridge.Effect.Permits
import ModbusBridge.Lemmas.Idle

/-!
This module contains what happens around the first read of a receiving function: how the blocking timed
copies wait for it, and that whenever it does not settle the matter, a second one follows at once.
-/

namespace ModbusBridge

open Effect EmbeddedIo Session
open Exec (Within)
open ReadReady (poll polled ReadyAfter quietPolls)

variable {S TS D SE TE : Type}

namespace Session

/--
The first event between the two states is a read.
-/
def ReadsNext (isRead : Event SE TE → Bool) (s s' : Session S TS D SE TE) : Prop :=
  ∃ e t, s'.trace = s.trace ++ e :: t ∧ isRead e = true

/--
Among the events between the two states are two reads in a row.
-/
def Rereads (isRead : Event SE TE → Bool) (s s' : Session S TS D SE TE) : Prop :=
  ∃ t first second t', s'.trace = s.trace ++ (t ++ first :: second :: t')
    ∧ isRead first = true ∧ isRead second = true

variable {isRead : Event SE TE → Bool} {kinds : List Event.Kind} {s s₁ s' : Session S TS D SE TE}

theorem ReadsNext.append (h : ReadsNext isRead s s₁) (hrest : Emits kinds s₁ s') : ReadsNext isRead s s' := by
  obtain ⟨e, t, ht, hread⟩ := h
  obtain ⟨t', ht', _⟩ := hrest
  refine ⟨e, t ++ t', ?_, hread⟩
  rw [ht', ht]
  simp

theorem Rereads.of_reads {e : Event SE TE} (htrace : s₁.trace = s.trace ++ [e]) (hread : isRead e = true)
    (h : ReadsNext isRead s₁ s') : Rereads isRead s s' := by
  obtain ⟨e', t, ht, hread'⟩ := h
  refine ⟨[], e, e', t, ?_, hread, hread'⟩
  rw [ht, htrace]
  simp

theorem Rereads.append (h : Rereads isRead s s₁) (hrest : Emits kinds s₁ s') : Rereads isRead s s' := by
  obtain ⟨t, first, second, t', ht, hfirst, hsecond⟩ := h
  obtain ⟨t'', ht'', _⟩ := hrest
  refine ⟨t, first, second, t' ++ t'', ?_, hfirst, hsecond⟩
  rw [ht'', ht]
  simp

theorem Rereads.prepend (hbefore : Emits kinds s s₁) (h : Rereads isRead s₁ s') : Rereads isRead s s' := by
  obtain ⟨t₀, ht₀, _⟩ := hbefore
  obtain ⟨t, first, second, t', ht, hfirst, hsecond⟩ := h
  refine ⟨t₀ ++ t, first, second, t', ?_, hfirst, hsecond⟩
  rw [ht, ht₀]
  simp

variable {x : Exec (Session S TS D SE TE) ε α} {f : α → Exec (Session S TS D SE TE) ε β}

theorem ReadsNext.bind (kinds : List Event.Kind) (h : ReadsNext isRead s (finalState (x s)))
    (hf : ∀ a, Within (Emits kinds) (f a)) : ReadsNext isRead s (finalState ((x >>= f) s)) := by
  apply h.append
  apply Within.bind_rest hf

theorem Rereads.bind (kinds : List Event.Kind) (h : Rereads isRead s (finalState (x s)))
    (hf : ∀ a, Within (Emits kinds) (f a)) : Rereads isRead s (finalState ((x >>= f) s)) := by
  apply h.append
  apply Within.bind_rest hf

theorem Rereads.not_polled {isReady : Event SE TE → Bool} (h : Rereads isRead s (finalState (x s)))
    : ¬ usesPermits isReady isRead false (during x s) = true := by
  obtain ⟨t, first, second, t', ht, hfirst, hsecond⟩ := h
  rw [during_eq ht]
  apply usesPermits.not_of_reuse hfirst hsecond

/--
Only events of one kind are reads.
-/
def ReadsAre (k : Event.Kind) (isRead : Event SE TE → Bool) : Prop := ∀ e, isRead e = true → e.kind = k

theorem readsAre_serialRead : ReadsAre .serialRead (Event.isSerialRead : Event SE TE → Bool) := by
  intro e h
  unfold Event.isSerialRead IoEvent.isRead at h
  split at h
  . split at h
    . rfl
    . contradiction
  . contradiction

theorem readsAre_tcpRead : ReadsAre .tcpRead (Event.isTcpRead : Event SE TE → Bool) := by
  intro e h
  unfold Event.isTcpRead IoEvent.isRead at h
  split at h
  . split at h
    . rfl
    . contradiction
  . contradiction

theorem ReadsAre.eq_false {t : List (Event SE TE)} (hreads : ReadsAre k isRead) (hk : k ∉ kinds)
    (h : ∀ e ∈ t, e.kind ∈ kinds) : ∀ e ∈ t, isRead e = false := by
  intro e he
  apply Bool.eq_false_iff.mpr
  intro hread
  apply hk
  rw [← hreads e hread]
  apply h e he

theorem polled_of_quiet {isReady : Event SE TE → Bool} (hreads : ReadsAre k isRead) (hk : k ∉ kinds)
    (h : Emits kinds s (finalState (x s))) : usesPermits isReady isRead false (during x s) = true := by
  obtain ⟨t, ht, hmem⟩ := h
  rw [during_eq ht]
  apply usesPermits.of_no_use (hreads.eq_false hk hmem)

theorem polled_of_read {isReady : Event SE TE → Bool} {e : Event SE TE} (hreads : ReadsAre k isRead)
    (hk : k ∉ kinds) (hwait : Emits kinds s s₁)
    (hready : ∃ t, s₁.trace = s.trace ++ t ∧ ∃ e ∈ t, isReady e = true)
    (htrace : (finalState (x s)).trace = s₁.trace ++ [e])
    : usesPermits isReady isRead false (during x s) = true := by
  obtain ⟨t, ht, hpermit⟩ := hready
  rw [ht, List.append_assoc] at htrace
  rw [during_eq htrace]
  apply usesPermits.of_one_use (hreads.eq_false hk (hwait.kind_mem ht)) hpermit

end Session

section Wait

variable {readReady : Exec (Session S TS D SE TE) ε Bool} {port : Session S TS D SE TE → σ}
  {asked : Except ε Bool → Event SE TE}

/--
`readReady` asks the device `port` and records the answer as `asked`.
-/
structure PollsAs [ReadReady σ ε] (readReady : Exec (Session S TS D SE TE) ε Bool)
    (port : Session S TS D SE TE → σ) (asked : Except ε Bool → Event SE TE) : Prop
    extends Polls readReady port where
  trace_eq (s : Session S TS D SE TE)
    : (finalState (readReady s)).trace = s.trace ++ [asked (ReadReady.readReady (port s)).1]
  idle : Within StaysIdle readReady

theorem pollsAs_serial [ReadReady S SE]
    : PollsAs (serialReadReady : Exec (Session S TS D SE TE) SE Bool) Session.serial
        (.serial ∘ .readReady) where
  toPolls := polls_serial
  trace_eq := serialPort.trace_readReady
  idle := serialReadReady_staysIdle

theorem pollsAs_tcp [ReadReady TS TE]
    : PollsAs (tcpReadReady : Exec (Session S TS D SE TE) TE Bool) Session.stream
        (.tcp ∘ .readReady) where
  toPolls := polls_tcp
  trace_eq := tcpPort.trace_readReady
  idle := tcpReadReady_staysIdle

/--
The port has been polled until it was ready, which it was after `k` other polls.
-/
structure Waited [ReadReady σ ε] (port : Session S TS D SE TE → σ) (asked : Except ε Bool → Event SE TE)
    (k : Nat) (s s' : Session S TS D SE TE) : Prop where
  port_eq : port s' = polled (k + 1) (port s)
  idle : StaysIdle s s'
  asked : ∃ t, s'.trace = s.trace ++ t ∧ asked (.ok true) ∈ t

theorem PollsAs.result [ReadReady σ ε] (h : PollsAs readReady port asked) (s : Session S TS D SE TE)
    : ∃ s', (Exec.result readReady s : EStateM.Result (Stop δ) _ _) = .ok (ReadReady.readReady (port s)).1 s'
        ∧ port s' = (ReadReady.readReady (port s)).2 ∧ StaysIdle s s'
        ∧ s'.trace = s.trace ++ [asked (ReadReady.readReady (port s)).1] := by
  obtain ⟨s', hrun, hport⟩ := h.toPolls.result (δ := δ) s
  have hs' : s' = finalState (readReady s) := by
    rw [← Exec.finalState_result (δ := δ), hrun]
    rfl
  refine ⟨s', hrun, hport, ?_, ?_⟩
  . rw [hs']
    apply h.idle
  . rw [hs']
    apply h.trace_eq

/--
What a wait performs that sleeps `m` times, where `asked` is the event of a poll.
-/
def waits (asked : Except ε Bool → Event SE TE) (m : Nat) (last : Except ε Bool) : List (Event SE TE) :=
  (List.replicate m [asked (.ok false), .delayMs 1]).flatten ++ [asked last]

theorem waits_succ (asked : Except ε Bool → Event SE TE) (m : Nat) (last : Except ε Bool)
    : waits asked (m + 1) last = [asked (.ok false)] ++ [.delayMs 1] ++ waits asked m last := by
  unfold waits
  rw [List.replicate_succ, List.flatten_cons, List.append_assoc]
  rfl

variable [DelayNs D]

theorem waitReady.go_sleeps [ReadReady σ ε] (h : PollsAs readReady port asked) (ioError : ε → BridgeError SE TE)
    (timeoutMs elapsed : UInt32) (s : Session S TS D SE TE) {m : Nat}
    (hm : quietPolls (timeoutMs.toNat - elapsed.toNat) (port s) = m)
    : (finalState (waitReady.go readReady ioError timeoutMs elapsed s)).trace
          = s.trace ++ waits asked m (poll (port s) m)
        ∧ port (finalState (waitReady.go readReady ioError timeoutMs elapsed s)) = polled (m + 1) (port s) := by
  obtain ⟨s₁, hready, hport, _, htrace⟩ := h.result (δ := BridgeError SE TE) s
  -- A loop that ends with this poll has not slept at all.
  have hlast (r : EStateM.Result (Stop (BridgeError SE TE)) (Session S TS D SE TE) Unit)
      (hr : finalState r = s₁) (hnone : quietPolls (timeoutMs.toNat - elapsed.toNat) (port s) = 0)
      : (finalState r).trace = s.trace ++ waits asked m (poll (port s) m)
          ∧ port (finalState r) = polled (m + 1) (port s) := by
    rw [← hm, hnone, hr]
    exact ⟨htrace, hport⟩
  unfold go
  rw [Exec.bind_ok hready]
  cases hanswer : (ReadReady.readReady (port s)).1 with
  | error e =>
    apply hlast _ rfl
    apply ReadReady.quietPolls_of_answer
    simp [hanswer]
  | ok ready =>
    cases ready with
    | true =>
      apply hlast _ rfl
      apply ReadReady.quietPolls_of_answer
      simp [hanswer]
    | false =>
      dsimp only
      split
      . next hge =>
        apply hlast _ rfl
        rw [Nat.sub_eq_zero_of_le (UInt32.le_iff_toNat_le.mp hge)]
        rfl
      . next hge =>
        have hlt : elapsed < timeoutMs := UInt32.not_le.mp hge
        have hnat := UInt32.lt_iff_toNat_lt.mp hlt
        have hsucc := toNat_saturatingAdd_one hlt
        obtain ⟨s₂, hdelay, hport₂, htrace₂⟩ : ∃ s₂, (delayMs 1 s₁ : EStateM.Result (Stop (BridgeError SE TE)) _ _)
            = .ok () s₂ ∧ port s₂ = port s₁ ∧ s₂.trace = s₁.trace ++ [.delayMs 1] :=
          ⟨_, rfl, h.port_delayMs s₁ _ _, rfl⟩
        have hrounds : m = quietPolls (timeoutMs.toNat - (saturatingAdd elapsed 1).toNat) (port s₂) + 1 := by
          rw [hport₂, hport, ← ReadReady.quietPolls_succ hanswer, ← hm]
          rw [show timeoutMs.toNat - (saturatingAdd elapsed 1).toNat + 1 = timeoutMs.toNat - elapsed.toNat by omega]
        obtain ⟨hrest, hportRest⟩ := go_sleeps h ioError timeoutMs (saturatingAdd elapsed 1) s₂ rfl
        rw [Exec.bind_ok hdelay, hrounds, ReadReady.poll_succ, waits_succ, polled, ← hport, ← hport₂]
        refine ⟨?_, hportRest⟩
        rw [hrest, htrace₂, htrace, hanswer]
        simp only [List.append_assoc]
termination_by timeoutMs.toNat - elapsed.toNat

theorem waitReady.go_readyAfter [ReadReady σ ε] (h : PollsAs readReady port asked)
    (ioError : ε → BridgeError SE TE) (timeoutMs : UInt32) {elapsed : UInt32} {s : Session S TS D SE TE}
    (hready : ReadyAfter k (port s)) (hle : elapsed.toNat + k ≤ timeoutMs.toNat)
    : ∃ s', go readReady ioError timeoutMs elapsed s = .ok () s' ∧ Waited port asked k s s' := by
  obtain ⟨hquiet, hanswer⟩ := (ReadReady.readyAfter_iff k (port s)).mp hready
  have hfirst : ReadReady.FirstAnswer (port s) k := ⟨hquiet, by rw [hanswer]; simp⟩
  have hrounds : quietPolls (timeoutMs.toNat - elapsed.toNat) (port s) = k := by
    rw [ReadReady.quietPolls_of_first hfirst]
    omega
  have houtcome : outcome (go readReady ioError timeoutMs elapsed s) = .ok () := by
    have hpolls := (ReadReady.pollReady_eq_ok (timeoutMs.toNat - elapsed.toNat) (port s)).mpr
      ⟨k, by omega, hready⟩
    rw [go_outcome h.toPolls, hpolls]
    rfl
  obtain ⟨htrace, hport⟩ := go_sleeps h ioError timeoutMs elapsed s hrounds
  refine ⟨_, Exec.eq_ok_of_outcome houtcome, hport, ?_, _, htrace, ?_⟩
  . apply go_within h.idle
    apply delayMs_staysIdle
  . rw [hanswer]
    exact List.mem_append_right _ (List.mem_singleton_self _)

section Guarded

variable [ReadReady σ ε'] {readReady : Exec (Session S TS D SE TE) ε' Bool}
  {asked : Except ε' Bool → Event SE TE} {timeoutMs : Session S TS D SE TE → Option UInt32}
  {s : Session S TS D SE TE} (ioError : ε' → BridgeError SE TE) (fut : Exec (Session S TS D SE TE) ε α)
  (toError : Flavour → ε → BridgeError SE TE)

/--
The blocking timed copy starts the operation it guards right after a poll that has found the port ready.
-/
theorem guarded_readyAfter (h : PollsAs readReady port asked) (htimeout : timeoutMs s = some ms)
    (hle : k ≤ ms.toNat) (hready : ReadyAfter k (port s))
    : ∃ s₁, waitReadyFor readReady ioError (timeoutMs s) s = .ok () s₁ ∧ Waited port asked k s s₁
        ∧ guarded readReady ioError timeoutMs fut toError .syncTimed s
            = Exec.mapErr (toError .syncTimed) fut s₁ := by
  have hzero : (0 : UInt32).toNat + k ≤ ms.toNat := by simpa using hle
  obtain ⟨s₁, hgo, hwaited⟩ := waitReady.go_readyAfter h ioError ms hready hzero
  have hwait : waitReadyFor readReady ioError (timeoutMs s) s = .ok () s₁ := by
    rw [htimeout]
    exact hgo
  refine ⟨s₁, hwait, hwaited, ?_⟩
  unfold guarded
  dsimp only
  rw [Exec.bind_ok (show (get : Exec _ (BridgeError SE TE) _) s = .ok s s by rfl)]
  rw [Exec.bind_ok hwait]

theorem guarded_not_ready (h : PollsAs readReady port asked) (htimeout : timeoutMs s = some ms)
    (hnot : ∀ k ≤ ms.toNat, ¬ ReadyAfter k (port s))
    : ∃ e s₁, waitReadyFor readReady ioError (timeoutMs s) s = .error e s₁
        ∧ .error e = waitResult ioError (ReadReady.pollReady ms.toNat (port s))
        ∧ guarded readReady ioError timeoutMs fut toError .syncTimed s = .error e s₁ := by
  have hnever : ReadReady.pollReady ms.toNat (port s) ≠ some (.ok ()) := by
    rw [ne_eq, ReadReady.pollReady_eq_ok]
    rintro ⟨k, hle, hready⟩
    exact hnot k hle hready
  cases hwait : waitReadyFor readReady ioError (timeoutMs s) s with
  | ok _ s₁ =>
    have hready := (waitReadyFor_ok_iff h.toPolls ioError (timeoutMs s) s).mp (by rw [hwait]; rfl)
    exact absurd (hready ms htimeout) hnever
  | error e s₁ =>
    have houtcome := waitReady.go_outcome h.toPolls ioError ms 0 s
    have hgo := hwait
    rw [htimeout] at hgo
    rw [show waitReady.go readReady ioError ms 0 s = .error e s₁ from hgo] at houtcome
    refine ⟨e, s₁, rfl, houtcome, ?_⟩
    unfold guarded
    dsimp only
    rw [Exec.bind_ok (show (get : Exec _ (BridgeError SE TE) _) s = .ok s s by rfl)]
    rw [Exec.bind_error hwait]

end Guarded

end Wait

namespace ModbusTcp

variable [Device TS TE] {s : Session S TS D SE TE}

theorem tcpRead_idle (hidle : s.deadline = none) (n : Nat)
    : ∃ s' r, (Exec.result (tcpRead n) s : EStateM.Result (Stop δ) _ _) = .ok (Device.read s.stream n).result s'
        ∧ s'.trace = s.trace ++ [.tcp (.read n r)] :=
  tcpPort.read_idle hidle n

theorem tcpRead_emits (n : Nat)
    : Within (Emits [.tcpRead]) (tcpRead n : Exec (Session S TS D SE TE) TE _) :=
  (tcpRead_onTcp (List.mem_singleton_self _) n).mono fun _ _ h => h.emits

theorem readExact.go_readsNext {filled : List UInt8} (hfilled : filled.length ≤ len)
    (hlt : filled.length < len) (s : Session S TS D SE TE)
    : ReadsNext Event.isTcpRead s (finalState (go len filled hfilled s)) := by
  unfold go
  rw [dif_pos hlt]
  apply ReadsNext.bind [.tcpRead]
  . rw [Exec.finalState_result]
    exact ⟨_, [], trace_tcpRead _ s, rfl⟩
  . intro r
    split
    . apply Within.fail
    . apply readExact.go_within tcpRead_emits
    . apply Within.fail

/--
The first read gets nothing, which is an error, or all there is to get, or another one follows.
-/
theorem readExact_first (hidle : s.deadline = none) (hlen : 0 < len)
    (hgot : answered (Device.read s.stream len).result = got)
    : ∃ s' r, s'.trace = s.trace ++ [.tcp (.read len r)]
        ∧ ((got = [] ∧ ∃ e, readExact len s = .error e s')
          ∨ (∃ v, got = v.toList ∧ readExact len s = .ok v s')
          ∨ (got ≠ [] ∧ got.length < len
            ∧ ReadsNext Event.isTcpRead s' (finalState (readExact len s)))) := by
  obtain ⟨s', r, hread, htrace⟩ :=
    tcpRead_idle (δ := ModbusError Empty TE) hidle (len - ([] : List UInt8).length)
  refine ⟨s', r, htrace, ?_⟩
  unfold readExact readExact.go
  rw [dif_pos (show ([] : List UInt8).length < len from hlen), Exec.bind_ok hread, ← hgot]
  show (answered (Device.read s.stream (len - ([] : List UInt8).length)).result = [] ∧ _) ∨ _
  obtain e | ⟨bytes, hbytes⟩ := (Device.read s.stream (len - ([] : List UInt8).length)).result
  . exact .inl ⟨rfl, _, rfl⟩
  cases bytes with
  | nil => exact .inl ⟨rfl, _, rfl⟩
  | cons byte bytes =>
    right
    by_cases hall : ([] ++ byte :: bytes).length < len
    . right
      exact ⟨List.cons_ne_nil _ _, hall, readExact.go_readsNext _ hall s'⟩
    . left
      dsimp only
      unfold readExact.go
      rw [dif_neg hall]
      exact ⟨_, rfl, rfl⟩

theorem lengthField_toList (hdr : Vector UInt8 6)
    : lengthField hdr.toList = (fromBeBytes (hdr.get 4) (hdr.get 5)).toNat := by
  unfold lengthField
  rw [← List.append_nil hdr.toList, getD_toList_append hdr [] (by omega), getD_toList_append hdr [] (by omega)]
  rfl

theorem listen_stops (hidle : s.deadline = none) (hgot : answered (Device.read s.stream 6).result = got)
    (hend : EndsRequest got)
    : ∃ r, (finalState (listen s)).trace = s.trace ++ [.tcp (.read 6 r)]
        ∧ ∀ f s', listen s = .ok f s' → f.data.length = 6 := by
  obtain ⟨s', r, htrace, hread⟩ := readExact_first hidle (by decide) hgot
  refine ⟨r, ?_⟩
  unfold listen
  obtain ⟨_, e, hread⟩ | ⟨hdr, rfl, hread⟩ | ⟨hne, hlt, _⟩ := hread
  . rw [Exec.bind_error hread]
    exact ⟨htrace, nofun⟩
  . have hzero : (fromBeBytes (hdr.get 4) (hdr.get 5)).toNat = 0 := by
      rw [← lengthField_toList]
      cases hend with
      | inl hnil => rw [hnil, lengthField_nil]
      | inr h => exact h.2
    have hfit : hdr.toList.length ≤ tcpBuf := by simp [tcpBuf]
    obtain ⟨req, hreq, hdata⟩ := Heapless.Vec.extendFromSlice_empty hfit
    rw [Exec.bind_ok hread, hreq, Exec.bind_ok (Exec.ofOption_some _ _ _)]
    rw [show (fromBeBytes hdr[4] hdr[5]).toNat = 0 from hzero]
    refine ⟨htrace, ?_⟩
    intro f s'' h
    injection h with hf
    rw [← hf, hdata, Vector.length_toList]
  . cases hend with
    | inl hnil => contradiction
    | inr h => omega

theorem listen_rereads (hidle : s.deadline = none) (hgot : answered (Device.read s.stream 6).result = got)
    (hmore : ¬ EndsRequest got) : Rereads Event.isTcpRead s (finalState (listen s)) := by
  obtain ⟨s', r, htrace, hread⟩ := readExact_first hidle (by decide) hgot
  have hbyte : Within (Emits [.tcpRead])
      (readExact 1 : Exec (Session S TS D SE TE) (ModbusError Empty TE) _) :=
    readExact_within tcpRead_emits 1
  unfold listen
  obtain ⟨hnil, _⟩ | ⟨hdr, rfl, hread⟩ | ⟨_, _, hnext⟩ := hread
  . exact absurd (.inl hnil) hmore
  . have hpos : (fromBeBytes (hdr.get 4) (hdr.get 5)).toNat ≠ 0 := by
      rw [← lengthField_toList]
      intro hzero
      exact hmore (.inr ⟨Vector.length_toList, hzero⟩)
    obtain ⟨n, hn⟩ := Nat.exists_eq_succ_of_ne_zero hpos
    have hfit : hdr.toList.length ≤ tcpBuf := by simp [tcpBuf]
    obtain ⟨req, hreq, hdata⟩ := Heapless.Vec.extendFromSlice_empty hfit
    rw [Exec.bind_ok hread, hreq, Exec.bind_ok (Exec.ofOption_some _ _ _)]
    rw [show (fromBeBytes hdr[4] hdr[5]).toNat = n + 1 from hn]
    apply Rereads.of_reads htrace rfl
    unfold pushBytes
    apply ReadsNext.bind [.tcpRead]
    . apply readExact.go_readsNext
      decide
    . intro byte
      apply Within.bind
      . apply Within.ofOption
      intro buf
      apply pushBytes_within hbyte
  . apply Rereads.bind [.tcpRead] (Rereads.of_reads htrace rfl hnext)
    intro hdr
    apply Within.bind
    . apply Within.ofOption
    intro req
    apply pushBytes_within hbyte

end ModbusTcp

namespace ModbusRtu

variable [Device S SE] {s : Session S TS D SE TE}

theorem serialRead_idle (hidle : s.deadline = none) (n : Nat)
    : ∃ s' r, (Exec.result (serialRead n) s : EStateM.Result (Stop δ) _ _)
          = .ok (Device.read s.serial n).result s'
        ∧ s'.trace = s.trace ++ [.serial (.read n r)] :=
  serialPort.read_idle hidle n

theorem serialRead_emits (n : Nat)
    : Within (Emits [.serialRead]) (serialRead n : Exec (Session S TS D SE TE) SE _) :=
  (serialRead_onSerial (List.mem_singleton_self _) n).mono fun _ _ h => h.emits

theorem readExact.go_readsNext {filled : List UInt8} (hfilled : filled.length ≤ len)
    (hlt : filled.length < len) (attempt : Nat) (s : Session S TS D SE TE)
    : ReadsNext Event.isSerialRead s (finalState (go len filled hfilled attempt s)) := by
  unfold go
  rw [dif_pos hlt]
  apply ReadsNext.bind [.serialRead]
  . rw [Exec.finalState_result]
    exact ⟨_, [], trace_serialRead _ s, rfl⟩
  . intro r
    split
    . apply Within.fail
    . apply readExact.go_within serialRead_emits
    . split
      . apply Within.fail
      . apply readExact.go_within serialRead_emits

/--
Unlike on the TCP stream, a first read that fails is followed by another one.
-/
theorem readExact_first (hidle : s.deadline = none) (hlen : 0 < len)
    (hgot : (Device.read s.serial len).result.map Subtype.val = got)
    : ∃ s' r, s'.trace = s.trace ++ [.serial (.read len r)]
        ∧ ((got = .ok [] ∧ ∃ e, readExact len s = .error e s')
          ∨ (∃ v, got = .ok v.toList ∧ readExact len s = .ok v s')
          ∨ (got ≠ .ok [] ∧ ReadsNext Event.isSerialRead s' (finalState (readExact len s)))) := by
  obtain ⟨s', r, hread, htrace⟩ :=
    serialRead_idle (δ := ModbusError SE Empty) hidle (len - ([] : List UInt8).length)
  refine ⟨s', r, htrace, ?_⟩
  unfold readExact readExact.go
  rw [dif_pos (show ([] : List UInt8).length < len from hlen), Exec.bind_ok hread, ← hgot]
  show ((Device.read s.serial (len - ([] : List UInt8).length)).result.map Subtype.val = .ok [] ∧ _) ∨ _
  obtain e | ⟨bytes, hbytes⟩ := (Device.read s.serial (len - ([] : List UInt8).length)).result
  . right
    right
    exact ⟨nofun, readExact.go_readsNext _ hlen 2 s'⟩
  cases bytes with
  | nil => exact .inl ⟨rfl, _, rfl⟩
  | cons byte bytes =>
    right
    by_cases hall : ([] ++ byte :: bytes).length < len
    . right
      exact ⟨nofun, readExact.go_readsNext _ hall 1 s'⟩
    . left
      dsimp only
      unfold readExact.go
      rw [dif_neg hall]
      exact ⟨_, rfl, rfl⟩

theorem listen_stops (hidle : s.deadline = none)
    (hgot : (Device.read s.serial 2).result.map Subtype.val = .ok [])
    : ∃ e s' r, listen s = .error e s' ∧ s'.trace = s.trace ++ [.serial (.read 2 r)] := by
  obtain ⟨s', r, htrace, hread⟩ := readExact_first hidle (by decide) hgot
  obtain ⟨_, e, hread⟩ | ⟨hdr, hnil, hread⟩ | ⟨hne, _⟩ := hread
  . exact ⟨e, s', r, Exec.bind_error hread, htrace⟩
  . injection hnil with hnil
    have hlen : hdr.toList.length = 2 := Vector.length_toList
    rw [← hnil] at hlen
    contradiction
  . contradiction

theorem listen.listenRest_readsNext (fc : UInt8) (req : RtuFrame) (s : Session S TS D SE TE)
    : ReadsNext Event.isSerialRead s (finalState (listenRest fc req s)) := by
  unfold listenRest
  split
  . apply ReadsNext.bind [.serialRead]
    . apply readExact.go_readsNext
      decide
    intro fixed
    apply Within.bind
    . apply Within.ofOption
    intro req
    apply pushBytes_within (readExact_within serialRead_emits 1)
  . apply ReadsNext.bind [.serialRead]
    . apply readExact.go_readsNext
      decide
    intro rest
    apply Within.ofOption

theorem listen_rereads (hidle : s.deadline = none)
    (hgot : (Device.read s.serial 2).result.map Subtype.val ≠ .ok [])
    : Rereads Event.isSerialRead s (finalState (listen s)) := by
  obtain ⟨s', r, htrace, hread⟩ := readExact_first hidle (by decide : 0 < 2) rfl
  have hchecked (req : RtuFrame) : Within (Emits [.serialRead])
      (do Exec.mapErr FrameError.intoCombined (Exec.ofExcept (checkCrc req.data)); pure req
        : Exec (Session S TS D SE TE) (ModbusError SE Empty) RtuFrame) := by
    apply Within.bind
    . apply Within.mapErr
      apply Within.ofExcept
    intro _
    apply Within.pure
  unfold listen
  obtain ⟨hnil, _⟩ | ⟨hdr, _, hread⟩ | ⟨_, hnext⟩ := hread
  . contradiction
  . have hfit : hdr.toList.length ≤ rtuBuf := by simp [rtuBuf]
    obtain ⟨req, hreq, hdata⟩ := Heapless.Vec.extendFromSlice_empty hfit
    rw [Exec.bind_ok hread, hreq, Exec.bind_ok (Exec.ofOption_some _ _ _)]
    apply Rereads.of_reads htrace rfl
    apply ReadsNext.bind [.serialRead] _ hchecked
    apply listen.listenRest_readsNext
  . apply Rereads.bind [.serialRead] (Rereads.of_reads htrace rfl hnext)
    intro hdr
    apply Within.bind
    . apply Within.ofOption
    intro req
    apply Within.bind
    . apply listen.listenRest_within serialRead_emits
    apply hchecked

end ModbusRtu

end ModbusBridge
