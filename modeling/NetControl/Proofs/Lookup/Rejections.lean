import NetControl.Proofs.Command.Grammar
import NetControl.Proofs.Lookup.RequestLine

/-!
# What the sender of a line that is no lookup is told

A line is no lookup because it has no arguments, because they name no command, because they are not
as many as the command wants, or because the address that they give is none. `Request.Rejects` lists
these cases by the arguments of the line, each with the whole text that is sent back.
`Request.exists_rejects` says that there are no other rejections, and
`Request.ofLine_of_rejects` that each of these cases is one, with this text.
-/

namespace NetControl.Lookup.Request

open Command Net

/-- How many arguments each command wants. -/
def arities : List (String × Nat) :=
  [("getaddrinfo", 8), ("gethostbyname", 4), ("gethostbyaddr", 5)]

/-- `Rejects text message`: the line is no lookup, and its sender is told `message`. -/
inductive Rejects (text : String) : String → Prop
  | unclosedQuote (split : Line.parse text = .error .unclosedQuote) :
    Rejects text "500 Unclosed quotes error"
  | badEscape (split : Line.parse text = .error .badEscape) :
    Rejects text "500 Received unsupported escape sequence"
  | empty (split : Line.parse text = .ok []) : Rejects text "500 Command not recognized"
  | unknown {command : String} {arguments : List String}
    (split : Line.parse text = .ok (command :: arguments))
    (unknown : command ∉ ["getaddrinfo", "gethostbyname", "gethostbyaddr"]) :
    Rejects text "500 Command not recognized"
  /-- The number that the sender is told counts the command as well. -/
  | arity {command : String} {arguments : List String} {count : Nat}
    (split : Line.parse text = .ok (command :: arguments))
    (wants : (command, count) ∈ arities) (other : arguments.length ≠ count) :
    Rejects text ("501 Invalid number of arguments to " ++ command ++ ": "
      ++ Text.decimal (arguments.length + 1))
  /-- The text is no literal of its family. -/
  | literal {literal size family pid interface : String}
    (split : Line.parse text = .ok ["gethostbyaddr", literal, size, family, pid, interface])
    (none : Text.lenientInt32 family = 2 ∧ parseV4 literal.toList = none ∨
      Text.lenientInt32 family = 10 ∧ parseV6 literal.toList = none) :
    Rejects text ("400 inet_pton(\"" ++ literal ++ "\") failed")
  /-- The family has no literals. -/
  | family {literal size family pid interface : String}
    (split : Line.parse text = .ok ["gethostbyaddr", literal, size, family, pid, interface])
    (other : Text.lenientInt32 family ≠ 2 ∧ Text.lenientInt32 family ≠ 10) :
    Rejects text ("400 inet_pton(\"" ++ literal
      ++ "\") failed (Address family not supported by protocol)")

variable {text message command : String} {arguments : List String} {r : Rejection}

/-! ## Arguments -/

theorem mem_commands_iff : command ∈ commands ↔ ∃ count, (command, count) ∈ arities := by
  have names : commands = arities.map Prod.fst := rfl
  rw [names, List.mem_map]
  simp

theorem parse_of_other {count : Nat} (wants : (command, count) ∈ arities)
    (other : arguments.length ≠ count) :
    parse (command :: arguments) = .error (arityRejection command (arguments.length + 1)) := by
  unfold parse
  split
  · next same =>
    cases same
    exact absurd (by simpa [arities] using wants) other.symm
  · next same =>
    cases same
    exact absurd (by simpa [arities] using wants) other.symm
  · next same =>
    cases same
    exact absurd (by simpa [arities] using wants) other.symm
  · next same =>
    cases same
    rfl
  · next same => cases same

/-- An address is rejected just if it is no literal of its family, or its family has none. -/
theorem addressOctets_eq_error_iff {family : Int32} {literal : String} :
    addressOctets family literal = .error r ↔
      r = addressRejection literal none ∧
          (family = 2 ∧ parseV4 literal.toList = none ∨
            family = 10 ∧ parseV6 literal.toList = none) ∨
        r = addressRejection literal (some 97) ∧ family ≠ 2 ∧ family ≠ 10 := by
  unfold addressOctets
  split
  · next ipv4 =>
    subst ipv4
    cases parseV4 literal.toList <;> simp [afInet, eq_comm]
  · next other =>
    have other : family ≠ 2 := other
    split
    · next ipv6 =>
      subst ipv6
      cases parseV6 literal.toList <;> simp [afInet6, eq_comm]
    · next neither =>
      have neither : family ≠ 10 := neither
      simp [other, neither, eafnosupport, eq_comm]

/-- A line that names a command is rejected for the number of its arguments, or for an address. -/
theorem exists_rejects_of_parse (split : Line.parse text = .ok (command :: arguments))
    (known : command ∈ commands) (reads : parse (command :: arguments) = .error r) :
    ∃ message, Rejects text message := by
  unfold parse at reads
  split at reads
  · cases reads
  · cases reads
  · next same =>
    rw [same] at split
    rcases addressOctets_eq_error_iff.mp (eq_error_of_map reads) with ⟨-, none⟩ | ⟨-, other⟩
    · exact ⟨_, .literal split none⟩
    · exact ⟨_, .family split other⟩
  · next addresses byName byAddress same =>
    cases same
    obtain ⟨count, wants⟩ := mem_commands_iff.mp known
    refine ⟨_, .arity split wants fun length => ?_⟩
    simp only [arities, List.mem_cons, Prod.mk.injEq, List.not_mem_nil, or_false] at wants
    -- As many arguments as the command wants would have made a lookup.
    obtain ⟨rfl, rfl⟩ | ⟨rfl, rfl⟩ | ⟨rfl, rfl⟩ := wants
    · match arguments, length with
      | [a, b, c, d, e, f, g, h], _ => exact addresses a b c d e f g h rfl rfl
    · match arguments, length with
      | [a, b, c, d], _ => exact byName a b c d rfl rfl
    · match arguments, length with
      | [a, b, c, d, e], _ => exact byAddress a b c d e rfl rfl
  · next same => cases same

/-- A line that is no lookup is rejected for one of these reasons. -/
theorem exists_rejects (reads : ofLine text = .error r) : ∃ message, Rejects text message := by
  cases split : Line.parse text with
  | error e =>
    have verdict := Line.verdict_parse text
    rw [split] at verdict
    cases e with
    | unclosedQuote => exact ⟨_, .unclosedQuote split⟩
    | badEscape => exact ⟨_, .badEscape split⟩
    | tooLong => exact verdict.elim
  | ok found =>
    cases found with
    | nil => exact ⟨_, .empty split⟩
    | cons command arguments =>
      by_cases known : command ∈ commands
      · rw [ofLine_of_known split known] at reads
        exact exists_rejects_of_parse split known reads
      · exact ⟨_, .unknown split known⟩

/-! ## Texts -/

theorem encode_response (r : Rejection) :
    (r.response (Client.new false)).encode =
      Bytes.ofString (String.ofList r.code.digits ++ " " ++ r.message
        ++ r.errno.elim "" fun number => " (" ++ OsError.describe number ++ ")") ++ [0] := by
  obtain ⟨code, message, errno⟩ := r
  cases errno with
  | none =>
    rw [Option.elim_none, String.append_empty]
    rfl
  | some number =>
    change Bytes.ofString (String.ofList code.digits ++ " " ++ (message ++ " (" ++ _ ++ ")")) ++ _ = _
    simp only [Option.elim_some, String.append_assoc]

theorem encode_arityRejection (command : String) (count : Nat) :
    ((arityRejection command count).response (Client.new false)).encode =
      Bytes.ofString ("501 Invalid number of arguments to " ++ command ++ ": "
        ++ Text.decimal count) ++ [0] := by
  have digits : String.ofList Code.parameterError.digits = "501" := by decide +kernel
  have words : "501 Invalid number of arguments to " =
    "501" ++ " " ++ "Invalid number of arguments to " := rfl
  rw [encode_response, arityRejection, digits, words]
  simp only [Option.elim_none, String.append_empty, String.append_assoc]

theorem encode_addressRejection (literal : String) (errno : Option Int) :
    ((addressRejection literal errno).response (Client.new false)).encode =
      Bytes.ofString ("400 inet_pton(\"" ++ literal ++ "\") failed"
        ++ errno.elim "" fun number => " (" ++ OsError.describe number ++ ")") ++ [0] := by
  have digits : String.ofList Code.operationFailed.digits = "400" := by decide +kernel
  have words : "400 inet_pton(\"" = "400" ++ " " ++ "inet_pton(\"" := rfl
  rw [encode_response, addressRejection, digits, words]
  simp only [String.append_assoc]

/-- Each of the reasons makes a line no lookup, and its sender is told of it. -/
theorem ofLine_of_rejects (rejects : Rejects text message) :
    ∃ r, ofLine text = .error r ∧
      (r.response (Client.new false)).encode = Bytes.ofString message ++ [0] := by
  cases rejects with
  | unclosedQuote split => exact ⟨_, ofLine_of_error split, by decide +kernel⟩
  | badEscape split => exact ⟨_, ofLine_of_error split, by decide +kernel⟩
  | empty split => exact ⟨_, ofLine_of_ok split, by decide +kernel⟩
  | unknown split unknown => exact ⟨_, ofLine_of_unknown split unknown, by decide +kernel⟩
  | arity split wants other =>
    have reads := ofLine_of_known split (mem_commands_iff.mpr ⟨_, wants⟩)
    exact ⟨_, reads.trans (parse_of_other wants other), encode_arityRejection _ _⟩
  | @literal literal size family pid interface split none =>
    have octets : addressOctets (Text.lenientInt32 family) literal = .error _ :=
      addressOctets_eq_error_iff.mpr (Or.inl ⟨rfl, none⟩)
    refine ⟨_, (ofLine_of_known split (by decide)).trans (congrArg (Except.map _) octets), ?_⟩
    rw [encode_addressRejection, Option.elim_none, String.append_empty]
  | @family literal size family pid interface split other =>
    have octets : addressOctets (Text.lenientInt32 family) literal = .error _ :=
      addressOctets_eq_error_iff.mpr (Or.inr ⟨rfl, other⟩)
    have words : "\") failed (Address family not supported by protocol)" =
      "\") failed" ++ " (Address family not supported by protocol)" := rfl
    refine ⟨_, (ofLine_of_known split (by decide)).trans (congrArg (Except.map _) octets), ?_⟩
    rw [encode_addressRejection, words, ← String.append_assoc]
    rfl

/-- The sender of a line that is no lookup is told the reason. -/
theorem response_of_ofLine (reads : ofLine text = .error r) :
    ∃ message, Rejects text message ∧
      (r.response (Client.new false)).encode = Bytes.ofString message ++ [0] := by
  obtain ⟨message, rejects⟩ := exists_rejects reads
  obtain ⟨r', same, told⟩ := ofLine_of_rejects rejects
  rw [reads] at same
  cases same
  exact ⟨message, rejects, told⟩

end NetControl.Lookup.Request
