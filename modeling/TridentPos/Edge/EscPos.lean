import TridentPos.Library.Utf16

/-!
# Kitchen tickets for ESC/POS printers

`escpos-formatter.ts`: a ticket as the bytes a thermal printer receives. Texts are UTF-16 code
units, and `normalize('NFKD')` is a parameter of which nothing is assumed.
-/
namespace TridentPos.Edge

open Library List

abbrev CodeUnits := List UInt16

def codeUnits (text : String) : CodeUnits := (Utf16.encode text).map UInt16.ofNat

inductive UrgencyLevel where
  | normal
  | alta
  | urgente
deriving DecidableEq

def UrgencyLevel.text : UrgencyLevel → String
  | .normal => "NORMAL"
  | .alta => "ALTA"
  | .urgente => "URGENTE"

structure EscPosTicketPartida where
  quantity : CodeUnits
  productNameSnapshot : CodeUnits
  comments : Option CodeUnits
  modifiers : Option (List CodeUnits)

structure EscPosTicketInput where
  ticketId : CodeUnits
  mesaReference : CodeUnits
  urgencyLevel : UrgencyLevel
  createdAt : CodeUnits
  partidas : List EscPosTicketPartida

/-! ### The formatter -/

inductive Command where
  | init
  | boldOn
  | boldOff
  | alignCenter
  | alignLeft
  | cut
  | lf

def Command.bytes : Command → List UInt8
  | .init => [0x1b, 0x40]
  | .boldOn => [0x1b, 0x45, 0x01]
  | .boldOff => [0x1b, 0x45, 0x00]
  | .alignCenter => [0x1b, 0x61, 0x01]
  | .alignLeft => [0x1b, 0x61, 0x00]
  | .cut => [0x1d, 0x56, 0x00]
  | .lf => [0x0a]

/-- A buffer of the ticket: a command, or a text to go through `ascii`. -/
inductive Part where
  | command (command : Command)
  | ascii (text : CodeUnits)

variable (nfkd : CodeUnits → CodeUnits) (ticket : EscPosTicketInput)

def ascii (text : CodeUnits) : List UInt8 :=
  ((nfkd text).filter fun unit => 0x20 ≤ unit && unit ≤ 0x7e).map UInt16.toUInt8

def Part.bytes (nfkd : CodeUnits → CodeUnits) : Part → List UInt8
  | .command c => c.bytes
  | .ascii text => Edge.ascii nfkd text

open Part

def partidaParts (partida : EscPosTicketPartida) : List Part :=
  [command .boldOn,
    .ascii (partida.quantity ++ codeUnits " x " ++ partida.productNameSnapshot),
    command .lf, command .boldOff] ++
  ((partida.modifiers.getD []).flatMap fun name =>
    [.ascii (codeUnits "   + " ++ name), command .lf]) ++
  -- `null` and the empty text are both falsy
  if partida.comments.getD [] = [] then []
  else [.ascii (codeUnits "   Nota: " ++ partida.comments.getD []), command .lf]

def ticketParts : List Part :=
  [command .init, command .alignCenter, command .boldOn,
    .ascii (codeUnits "*** COMANDA COCINA ***"), command .lf, command .boldOff] ++
  (if ticket.urgencyLevel = .normal then []
  else [.ascii (codeUnits ("** URGENCIA: " ++ ticket.urgencyLevel.text ++ " **")), command .lf]) ++
  [command .alignLeft,
    .ascii (codeUnits "Mesa: " ++ ticket.mesaReference), command .lf,
    .ascii (codeUnits "Ticket: " ++ ticket.ticketId), command .lf,
    .ascii (codeUnits "Hora: " ++ ticket.createdAt), command .lf,
    .ascii (codeUnits "------------------------------"), command .lf] ++
  ticket.partidas.flatMap partidaParts ++
  [.ascii (codeUnits "------------------------------"), command .lf, command .lf, command .lf,
    command .cut]

def formatKdsTicketEscPos : List UInt8 :=
  (ticketParts ticket).flatMap (Part.bytes nfkd)

/-! ### The printer -/

def printerCommands : List UInt8 → List (List UInt8)
  | 0x1b :: 0x40 :: rest => [0x1b, 0x40] :: printerCommands rest
  | 0x1b :: 0x45 :: mode :: rest => [0x1b, 0x45, mode] :: printerCommands rest
  | 0x1b :: 0x61 :: mode :: rest => [0x1b, 0x61, mode] :: printerCommands rest
  | 0x1d :: 0x56 :: mode :: rest => [0x1d, 0x56, mode] :: printerCommands rest
  | 0x1b :: rest => [0x1b] :: printerCommands rest
  | 0x1d :: rest => [0x1d] :: printerCommands rest
  | 0x0a :: rest => [0x0a] :: printerCommands rest
  | _ :: rest => printerCommands rest
  | [] => []

def isControl (byte : UInt8) : Bool := byte == 0x1b || byte == 0x1d || byte == 0x0a

theorem printerCommands_command (command : Command) (rest : List UInt8) :
    printerCommands (command.bytes ++ rest) = command.bytes :: printerCommands rest := by
  cases command <;> rfl

theorem printerCommands_text (byte : UInt8) (rest : List UInt8) (text : isControl byte = false) :
    printerCommands (byte :: rest) = printerCommands rest := by
  simp only [isControl, Bool.or_eq_false_iff, beq_eq_false_iff_ne] at text
  rw [printerCommands] <;> simp_all

theorem isControl_ascii {nfkd : CodeUnits → CodeUnits} {text : CodeUnits} {byte : UInt8}
    (member : byte ∈ ascii nfkd text) : isControl byte = false := by
  obtain ⟨unit, kept, rfl⟩ := mem_map.mp member
  have printable := (mem_filter.mp kept).2
  simp only [Bool.and_eq_true, decide_eq_true_eq, UInt16.le_iff_toNat_le] at printable
  simp only [isControl, Bool.or_eq_false_iff, beq_eq_false_iff_ne, ne_eq, ← UInt8.toNat_inj,
    UInt16.toNat_toUInt8]
  -- ESC, GS and LF are below the first printable byte
  simp at printable ⊢
  omega

/-! ### What a ticket can make a printer do -/

/-- What decides the commands of a ticket: whether it is urgent, and for each line the number of
modifiers and whether there are comments. -/
structure TicketShape where
  urgent : Bool
  partidas : List (Nat × Bool)

def EscPosTicketInput.shape : TicketShape where
  urgent := ticket.urgencyLevel != .normal
  partidas := ticket.partidas.map fun partida =>
    ((partida.modifiers.getD []).length, partida.comments.getD [] != [])

def partidaCommands (partida : Nat × Bool) : List Command :=
  [.boldOn, .lf, .boldOff] ++ replicate partida.1 .lf ++ if partida.2 then [.lf] else []

def TicketShape.commands (shape : TicketShape) : List Command :=
  [.init, .alignCenter, .boldOn, .lf, .boldOff] ++ (if shape.urgent then [.lf] else []) ++
  [.alignLeft, .lf, .lf, .lf, .lf] ++ shape.partidas.flatMap partidaCommands ++
  [.lf, .lf, .lf, .cut]

def Part.asCommand : Part → Option Command
  | .command c => some c
  | .ascii _ => none

theorem asCommand_partidaParts (partida : EscPosTicketPartida) :
    (partidaParts partida).filterMap Part.asCommand =
      partidaCommands ((partida.modifiers.getD []).length, partida.comments.getD [] != []) := by
  rw [partidaParts, filterMap_append, filterMap_append, filterMap_flatMap]
  simp only [asCommand, filterMap_cons, filterMap_nil]
  rw [← map_eq_flatMap, map_const']
  by_cases silent : partida.comments.getD [] = [] <;>
    simp [silent, partidaCommands, asCommand, filterMap_cons]

theorem asCommand_ticketParts :
    (ticketParts ticket).filterMap Part.asCommand = ticket.shape.commands := by
  simp only [ticketParts, filterMap_append, filterMap_flatMap, asCommand_partidaParts,
    TicketShape.commands, EscPosTicketInput.shape, flatMap_map]
  by_cases normal : ticket.urgencyLevel = .normal <;> simp [normal, asCommand, filterMap_cons]

theorem read_format {β : Type} (read : List UInt8 → List β)
    (own : Command → List β) (nil : read [] = [])
    (command : ∀ (c : Command) rest, read (c.bytes ++ rest) = own c ++ read rest)
    (text : ∀ byte rest, isControl byte = false → read (byte :: rest) = read rest)
    (ticket : EscPosTicketInput) :
    read (formatKdsTicketEscPos nfkd ticket) = ticket.shape.commands.flatMap own := by
  have skipped (bytes rest : List UInt8) (plain : ∀ byte ∈ bytes, isControl byte = false) :
      read (bytes ++ rest) = read rest := by
    induction bytes with
    | nil => rfl
    | cons byte bytes ih =>
      rw [cons_append, text _ _ (plain byte mem_cons_self)]
      exact ih fun other member => plain other (mem_cons_of_mem _ member)
  rw [← asCommand_ticketParts, formatKdsTicketEscPos]
  -- buffer by buffer: a command is read as itself, a text is skipped
  induction ticketParts ticket with
  | nil => exact nil
  | cons part parts ih =>
    cases part with
    | command c => simp [Part.bytes, asCommand, command, ih]
    | ascii units =>
      rw [flatMap_cons, Part.bytes, skipped _ _ fun _ => isControl_ascii, ih]
      rfl

/-- Whatever its texts, a printer finds in a ticket the commands of its shape, and no control byte
besides theirs; so tickets of one shape have the same commands and the same number of lines. -/
theorem ticket_commands :
    printerCommands (formatKdsTicketEscPos nfkd ticket) =
      ticket.shape.commands.map Command.bytes ∧
    (formatKdsTicketEscPos nfkd ticket).filter isControl =
      ticket.shape.commands.flatMap (fun c => c.bytes.filter isControl) ∧
    ∀ other : EscPosTicketInput, other.shape = ticket.shape →
      printerCommands (formatKdsTicketEscPos nfkd other) =
        printerCommands (formatKdsTicketEscPos nfkd ticket) ∧
      (formatKdsTicketEscPos nfkd other).count 0x0a =
        (formatKdsTicketEscPos nfkd ticket).count 0x0a := by
  have commands (ticket : EscPosTicketInput) : printerCommands (formatKdsTicketEscPos nfkd ticket) =
      ticket.shape.commands.map Command.bytes := by
    rw [map_eq_flatMap]
    exact read_format nfkd _ _ rfl printerCommands_command printerCommands_text ticket
  -- the control bytes alone are read off the buffers in the same way
  have controls (ticket : EscPosTicketInput) := read_format nfkd (filter isControl) _ rfl
    (fun _ _ => filter_append ..) (fun _ _ text => filter_cons_of_neg (by simp [text])) ticket
  refine ⟨commands ticket, controls ticket, fun other same => ⟨?_, ?_⟩⟩
  · rw [commands other, commands ticket, same]
  · rw [← count_filter (p := isControl) rfl, controls other, same, ← controls ticket,
      count_filter rfl]

end TridentPos.Edge
