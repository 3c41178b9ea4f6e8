import NetControl.Proofs.Tether.ServerView

/-!
# The name servers that the controller keeps

To set name servers is to clear the list, to cut the new one to what fits into a frame, to keep it
with its network, and to clear it again where the daemon cannot be told. On every way out the
controller has either no name server or those of this one call, with the network of the same call.

What was cut once is not cut again: a frame that was filled takes the fields that were added to it
once more, all of them (`Frame.fill_added`). The list can therefore be written again as it is.
-/

namespace NetControl.Tether

namespace Frame

variable {acceptable : String → Bool} {f : Frame}

/-- A frame that is filled with what was added to it before gets all of it again. -/
theorem fill_added {fields : List String} :
    fill acceptable f (fill acceptable f fields).added =
      { fill acceptable f fields with ending := .complete } := by
  induction fields generalizing f with
  | nil => rfl
  | cons field rest ih =>
    cases accepted : acceptable field with
    | false =>
      rw [fill_of_rejected accepted]
      rfl
    | true =>
      cases pushed : f.push? field with
      | none =>
        rw [fill_of_full accepted pushed]
        rfl
      | some longer => rw [fill_of_pushed accepted pushed, fill_of_pushed accepted pushed, ih]

end Frame

/-- The servers of an update make the same update again. -/
theorem updateServers_servers {mark : Mark} {servers : List String} {update : ServerUpdate}
    (accepted : updateServers mark servers = .ok update) :
    updateServers mark update.servers = .ok update := by
  unfold updateServers at accepted
  dsimp only at accepted
  split at accepted
  · cases accepted
  · cases accepted
    unfold updateServers fillServers
    rw [Frame.fill_added]

namespace Controller

variable {c c' : Controller} {op : Operation} {h : List Exchange} {r : Except Error Unit}
  {performed : List Performed}

/-- An operation leaves the name servers and their network alone, or it has set them: then none is
left, or it has succeeded and left what it accepted, with its network. -/
theorem servers_of_transition (step : c.Transition op h r c') :
    (op.setsServers = false ∧ c'.servers = c.servers ∧ c'.netId = c.netId) ∨
      ∃ netId servers, op = .setServers netId servers ∧ (c'.servers = [] ∨
        ∃ update, updateServers (Mark.forDns netId) servers = .ok update ∧
          r = .ok () ∧ c'.servers = update.servers ∧ c'.netId = netId) := by
  cases step with
  | serversInvalid rejected => exact Or.inr ⟨_, _, rfl, Or.inl rfl⟩
  | serversUntold accepted running e => exact Or.inr ⟨_, _, rfl, Or.inl rfl⟩
  | serversKept accepted idle => exact Or.inr ⟨_, _, rfl, Or.inr ⟨_, accepted, rfl, rfl, rfl⟩⟩
  | serversSent accepted running => exact Or.inr ⟨_, _, rfl, Or.inr ⟨_, accepted, rfl, rfl, rfl⟩⟩
  | enable | disable | startTwice | startOdd | launchFails | starts | stopIdle | stops
  | tetherInvalid | tetherTwice | tetherUnconfigured | tetherUntold | tethers | untetherAbsent
  | untethers => exact Or.inl ⟨rfl, rfl, rfl⟩

/-- The last operation that set name servers. -/
def lastSetting? (performed : List Performed) : Option Performed :=
  (performed.filter (·.operation.setsServers)).getLast?

theorem lastSetting?_concat_of_other {p : Performed} (other : p.operation.setsServers = false) :
    lastSetting? (performed ++ [p]) = lastSetting? performed := by
  have none : [p].filter (·.operation.setsServers) = [] :=
    List.filter_cons_of_neg (ne_true_of_eq_false other)
  unfold lastSetting?
  rw [List.filter_append, none, List.append_nil]

theorem lastSetting?_concat_of_setting {p : Performed} (sets : p.operation.setsServers = true) :
    lastSetting? (performed ++ [p]) = some p := by
  have one : [p].filter (·.operation.setsServers) = [p] := List.filter_cons_of_pos sets
  unfold lastSetting?
  rw [List.filter_append, one, List.getLast?_concat]

/-- The update with the controller's name servers is made without leaving one out. -/
def WritesAll (c : Controller) : Prop :=
  ∃ update, updateServers (Mark.forDns c.netId) c.servers = .ok update ∧
    update.servers = c.servers

/-- The controller's name servers are the first ones of the last call that set any, which has
succeeded, and their network is the network of that call. -/
def HasServersOfLast (c : Controller) (performed : List Performed) : Prop :=
  ∃ servers h, lastSetting? performed = some ⟨.setServers c.netId servers, h, .ok ()⟩ ∧
    c.servers <+: servers

/-- What holds of the name servers whenever the controller is at rest. -/
structure StoresServers (c : Controller) (performed : List Performed) : Prop where
  writesAll : c.WritesAll
  ofLast : c.servers ≠ [] → c.HasServersOfLast performed

theorem StoresServers.of_empty (empty : c.servers = []) : c.StoresServers performed where
  writesAll := by
    unfold WritesAll
    rw [empty]
    exact ⟨_, rfl, rfl⟩
  ofLast some := (some empty).elim

theorem StoresServers.of_transition (step : c.Transition op h r c')
    (stores : c.StoresServers performed) : c'.StoresServers (performed ++ [⟨op, h, r⟩]) := by
  rcases servers_of_transition step with ⟨other, servers, netId⟩ | ⟨netId, servers, rfl, left⟩
  · constructor
    · unfold WritesAll
      rw [servers, netId]
      exact stores.writesAll
    · unfold HasServersOfLast
      rw [servers, netId, lastSetting?_concat_of_other (p := ⟨op, h, r⟩) other]
      exact stores.ofLast
  rcases left with empty | ⟨update, accepted, rfl, kept, rfl⟩
  · exact .of_empty empty
  · constructor
    · unfold WritesAll
      rw [kept]
      exact ⟨update, updateServers_servers accepted, rfl⟩
    · intro _
      unfold HasServersOfLast
      rw [kept, lastSetting?_concat_of_setting rfl]
      exact ⟨servers, h, rfl, (bytes_of_updateServers accepted).2⟩

theorem Past.storesServers {b : List Exchange} (past : Past c b performed) :
    c.StoresServers performed := by
  induction past with
  | boot booted =>
    obtain ⟨⟨f, rfl⟩, -⟩ := of_follows_boot booted
    exact .of_empty rfl
  | perform past step ih => exact .of_transition step ih

/-- Whatever operations are carried out and whatever fails: the update with the controller's network
and name servers is made, and with all of them. Where there are any, the last call that set name
servers has succeeded, the network is the one of this call, and the name servers are the first ones
of its list. -/
theorem storedServers_of_lifetime {ω : Type} (answer : (c : Call) → ω → c.Answer × ω)
    (mode : String) (switches : Switches) (places : Places) (w : ω) (ops : List Operation) :
    let l := (Lifetime.begin answer mode switches places w).performAll answer ops
    let c := l.controller
    (∃ update, updateServers (Mark.forDns c.netId) c.servers = .ok update ∧
        update.servers = c.servers) ∧
      (c.servers ≠ [] → ∃ servers h,
        lastSetting? l.performed = some ⟨.setServers c.netId servers, h, .ok ()⟩ ∧
          c.servers <+: servers) := by
  intro l c
  have stores : c.StoresServers l.performed :=
    (Lifetime.past answer mode switches places w ops).storesServers
  exact ⟨stores.writesAll, stores.ofLast⟩

/-- Two calls that succeed with one between them that is refused, and then an operation of another
kind. -/
theorem storedServers_of_replacing :
    let l := (Lifetime.begin willing "" {} {} ()).performAll willing
      [.setServers 100 ["8.8.8.8"], .setServers 7 ["example.com"],
        .setServers 9 ["1.1.1.1", "fe80::1%wlan0"], .tether "wlan0"]
    l.controller.servers ≠ [] ∧ ∃ servers h,
      lastSetting? l.performed = some ⟨.setServers l.controller.netId servers, h, .ok ()⟩ ∧
        l.controller.servers <+: servers := by
  intro l
  have some : l.controller.servers ≠ [] := by decide +kernel
  exact ⟨some, (storedServers_of_lifetime willing "" {} {} ()
    [.setServers 100 ["8.8.8.8"], .setServers 7 ["example.com"],
      .setServers 9 ["1.1.1.1", "fe80::1%wlan0"], .tether "wlan0"]).2 some⟩

end Controller

end NetControl.Tether
