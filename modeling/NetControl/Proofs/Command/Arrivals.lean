import NetControl.Command.Inbox

/-!
# Which requests a stream holds

An inbox takes a stream byte by byte. What it delivers is said here in terms of the stream as a
whole: cut at the NULs, a stream is a list of segments, all but the last of which a NUL ends. The
requests are the segments that a NUL ends, up to the first one that is too long
(`Inbox.requests`); a segment that is too long is refused even if no NUL ends it
(`Inbox.isOverlong`). `Inbox.received_eq` says that an inbox delivers just that, in whatever pieces
the stream is read.
-/

namespace NetControl.Command.Inbox

/-- The requests in a stream: its segments that a NUL ends, up to the first that is too long. -/
def requests (stream : Bytes) : List String :=
  ((stream.splitOn 0).dropLast.takeWhile (·.length ≤ capacity)).map Text.lossy

/-- Whether a segment of the stream is too long, be it ended by a NUL or not. -/
def isOverlong (stream : Bytes) : Bool :=
  (stream.splitOn 0).any (capacity < ·.length)

/-! ## Reads -/

def receiveAll (inbox : Inbox) : List Bytes → Inbox × List Arrival
  | [] => (inbox, [])
  | piece :: rest =>
    let (next, arrived) := inbox.receive piece
    let (last, more) := next.receiveAll rest
    (last, arrived ++ more)

/-- What a stream delivers that is read in these pieces. -/
def received (reads : List Bytes) : List Arrival :=
  (receiveAll empty reads).2

theorem receive_append (inbox : Inbox) (piece rest : Bytes) :
    inbox.receive (piece ++ rest) =
      (((inbox.receive piece).1.receive rest).1,
        (inbox.receive piece).2 ++ ((inbox.receive piece).1.receive rest).2) := by
  induction piece generalizing inbox with
  | nil => rfl
  | cons b piece ih => simp [receive, ih, List.append_assoc]

/-- It does not matter where the stream is cut. -/
theorem receiveAll_eq (inbox : Inbox) (reads : List Bytes) :
    inbox.receiveAll reads = inbox.receive reads.flatten := by
  induction reads generalizing inbox with
  | nil => rfl
  | cons piece rest ih => simp [receiveAll, ih, receive_append]

/-! ## Segments -/

/-- What the segments of a stream deliver. -/
def delivered (segments : List Bytes) : List Arrival :=
  (segments.dropLast.takeWhile (·.length ≤ capacity)).map (fun s => .line (Text.lossy s))
    ++ if segments.any (capacity < ·.length) then [.tooLong] else []

theorem delivered_last {segment : Bytes} (fits : segment.length ≤ capacity) :
    delivered [segment] = [] := by
  simp [delivered, fits]

theorem delivered_cons {segment : Bytes} {segments : List Bytes}
    (fits : segment.length ≤ capacity) (ended : segments ≠ []) :
    delivered (segment :: segments) = .line (Text.lossy segment) :: delivered segments := by
  have first : (segment :: segments.dropLast).takeWhile (·.length ≤ capacity) =
      segment :: segments.dropLast.takeWhile (·.length ≤ capacity) :=
    List.takeWhile_cons_of_pos (decide_eq_true fits)
  unfold delivered
  rw [List.dropLast_cons_of_ne_nil ended, first, List.any_cons,
    decide_eq_false (Nat.not_lt.mpr fits), Bool.false_or]
  rfl

/-- After a segment that is too long nothing counts. -/
theorem delivered_tooLong {segment : Bytes} {segments : List Bytes}
    (long : capacity < segment.length) : delivered (segment :: segments) = [.tooLong] := by
  have none : (segment :: segments).dropLast.takeWhile (·.length ≤ capacity) = [] := by
    cases segments with
    | nil => rfl
    | cons next rest =>
      rw [List.dropLast_cons_cons]
      exact List.takeWhile_cons_of_neg (by simpa using long)
  unfold delivered
  rw [none, List.any_cons, decide_eq_true long, Bool.true_or]
  rfl

/-! ## Bytes -/

theorem receive_of_refused {inbox : Inbox} (refused : inbox.refused = true) (stream : Bytes) :
    inbox.receive stream = (inbox, []) := by
  induction stream with
  | nil => rfl
  | cons b rest ih => simp [receive, push, refused, ih]

/-- What an inbox holds of a line that is not complete yet stands before the rest of the stream. -/
theorem receive_eq_delivered {held : Bytes} {room : Nat} (total : held.length + room = capacity)
    (stream : Bytes) :
    (receive ⟨held, room, false⟩ stream).2 =
      delivered ((stream.splitOn 0).modifyHead (held.reverse ++ ·)) := by
  -- The bytes held come before the first segment of what is left, whatever they are.
  induction stream generalizing held room with
  | nil =>
    have fits : held.reverse.length ≤ capacity := by
      rw [List.length_reverse]
      omega
    rw [List.splitOn_nil, List.modifyHead_cons, List.append_nil, delivered_last fits]
    rfl
  | cons b rest ih =>
    obtain ⟨first, others, segments⟩ := List.exists_cons_of_ne_nil (List.splitOn_ne_nil 0 rest)
    rw [List.splitOn_cons_eq_if_modifyHead, segments]
    by_cases ends : b = 0
    · have fits : held.reverse.length ≤ capacity := by
        rw [List.length_reverse]
        omega
      have fresh := @ih [] capacity (Nat.zero_add capacity)
      rw [segments, List.modifyHead_cons, List.reverse_nil, List.nil_append] at fresh
      rw [ends, beq_self_eq_true, if_pos rfl, List.modifyHead_cons, List.append_nil,
        delivered_cons fits (List.cons_ne_nil first others), ← fresh]
      rfl
    · rw [if_neg (by simpa using ends), List.modifyHead_cons, List.modifyHead_cons]
      cases room with
      | zero =>
        have long : capacity < (held.reverse ++ b :: first).length := by
          rw [List.length_append, List.length_reverse, List.length_cons]
          omega
        rw [delivered_tooLong long]
        simp [receive, push, ends, receive_of_refused]
      | succ room =>
        have total' : (b :: held).length + room = capacity := by
          rw [List.length_cons]
          omega
        have next := ih total'
        rw [segments, List.modifyHead_cons, List.reverse_cons, List.append_assoc] at next
        simpa [receive, push, ends] using next

/-- Whatever the pieces in which a stream is read, its requests arrive, and the refusal of a line
that is too long if there is one. -/
theorem received_eq (reads : List Bytes) :
    received reads = (requests reads.flatten).map .line
      ++ if isOverlong reads.flatten then [.tooLong] else [] := by
  obtain ⟨first, others, segments⟩ :=
    List.exists_cons_of_ne_nil (List.splitOn_ne_nil 0 reads.flatten)
  have whole := @receive_eq_delivered [] capacity (Nat.zero_add capacity) reads.flatten
  rw [segments, List.modifyHead_cons, List.reverse_nil, List.nil_append, ← segments] at whole
  unfold received requests isOverlong
  rw [receiveAll_eq, List.map_map]
  exact whole

-- An empty line is a request; what no NUL ends is none.
example : received [[65, 0], [0, 66]] = [.line "A", .line ""] := by decide +kernel

end NetControl.Command.Inbox
