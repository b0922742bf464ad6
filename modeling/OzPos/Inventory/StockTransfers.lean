import OzPos.Inventory.StockCounts

namespace OzPos

inductive TransferStatus where
  | draft
  | pending
  | inTransit
  | received
  | receivedPartial
  | cancelled
  deriving DecidableEq

def TransferStatus.asStr : TransferStatus → String
  | .draft => "draft"
  | .pending => "pending"
  | .inTransit => "in_transit"
  | .received => "received"
  | .receivedPartial => "received_partial"
  | .cancelled => "cancelled"

structure StockTransferLine where
  (id transferId sku productName : String)
  (qty receivedQty : Int)

/-- A row of `stock_transfers`. -/
structure TransferRow where
  (id transferNumber : String)
  status : TransferStatus
  (sourceLocationId destinationLocationId : String)
  (sourceTerminalId destinationTerminalId : Option String)
  (notes createdBy : String)
  receivedBy : Option String
  createdAt : String
  (sentAt receivedAt : Option String)
  updatedAt : String

/-- A transfer as it is answered: a new one has its locations as they were asked for. -/
structure StockTransfer where
  row : TransferRow
  (sourceLocation destinationLocation : Option String)

structure CreateTransfer where
  (sourceLocation destinationLocation sourceTerminalId destinationTerminalId : Option String)
  (notes createdBy : String)
  lines : List StockTransferLine

structure ReceivedLine where
  lineId : String
  receivedQty : Int

structure TransferDb (κ : Type) where
  transfers : Table String TransferRow TransferRow.id
  lines : Table String StockTransferLine StockTransferLine.id
  domain : DomainTables κ

/-- The minted ids, the clock, and whether the database fails the transaction. -/
structure TransferDraw where
  transferId : String
  lineId : Nat → String
  millis : Int
  now : String
  failure : Option String

namespace DomainTables

variable {κ : Type}

/-- The product of a sku is looked up and bridged, and then takes the delta at the location. -/
def shiftStock (now sku reason location : String) (delta : Int) (d : DomainTables κ) :
    Except CoreError (DomainTables κ) :=
  match d.productIdBySku sku with
  | none => .error (.notFound "product" sku)
  | some item =>
    (d.bridgeLegacyInventoryIntoStockSummary now item).bind (fun d =>
      (d.adjustStockAtLocationWithReason now sku delta location (some reason)).map Prod.snd)

def sendError : CoreError → CoreError
  | .insufficientStockAtLocation sku _ requestedDelta availableQty =>
    .validation "qty"
      s!"insufficient stock for SKU '{sku}': have {availableQty}, need {requestedDelta.natAbs}"
  | e => e

def sendLines (now source : String) :
    List StockTransferLine → DomainTables κ → Except CoreError (DomainTables κ)
  | [], d => .ok d
  | line :: rest, d =>
    if line.qty ≤ 0 then
      .error (.validation "qty" "transfer quantity must be greater than zero")
    else
      ((d.shiftStock now line.sku "stock_transfer_out" source (-line.qty)).mapError sendError).bind
        (sendLines now source rest)

def returnLines (now source : String) :
    List StockTransferLine → DomainTables κ → Except CoreError (DomainTables κ)
  | [], d => .ok d
  | line :: rest, d =>
    (d.shiftStock now line.sku "stock_transfer_cancel" source line.qty).bind
      (returnLines now source rest)

end DomainTables

section

variable {κ : Type}

variable (draw : TransferDraw)

def transferNumber : String :=
  s!"TRF-{draw.millis}-{String.ofList (draw.transferId.toList.drop 24)}"

variable (line : StockTransferLine)

/-- `INSERT INTO stock_transfer_lines`, with its constraints. -/
def insertTransferLine (lines : Table String StockTransferLine StockTransferLine.id) :
    Except CoreError (Table String StockTransferLine StockTransferLine.id) :=
  if line.qty ≤ 0 then .error (.db "CHECK constraint failed: qty > 0")
  else
    match lines.insert? line with
    | none => .error (.db "UNIQUE constraint failed: stock_transfer_lines.id")
    | some lines => .ok lines

def insertTransferLines (draw : TransferDraw) :
    Nat → List StockTransferLine → Table String StockTransferLine StockTransferLine.id →
      Except CoreError (Table String StockTransferLine StockTransferLine.id)
  | _, [], lines => .ok lines
  | n, line :: rest, lines =>
    (insertTransferLine ⟨draw.lineId n, draw.transferId, line.sku, line.productName, line.qty, 0⟩
      lines).bind (insertTransferLines draw (n + 1) rest)

variable (input : CreateTransfer)

def newTransfer : TransferRow :=
  { id := draw.transferId, transferNumber := transferNumber draw, status := .draft
    sourceLocationId := input.sourceLocation.getD canonicalDefaultLocation
    destinationLocationId := input.destinationLocation.getD canonicalDefaultLocation
    sourceTerminalId := input.sourceTerminalId
    destinationTerminalId := input.destinationTerminalId, notes := input.notes
    createdBy := input.createdBy, receivedBy := none, createdAt := draw.now, sentAt := none
    receivedAt := none, updatedAt := draw.now }

def createTransfer (s : TransferDb κ) : Except CoreError (TransferDb κ) :=
  let row := newTransfer draw input
  if ¬ (row.sourceLocationId ∈ s.domain.locations ∧ row.destinationLocationId ∈ s.domain.locations)
    then .error (.db "FOREIGN KEY constraint failed")
  else if s.transfers.rows.any (fun other => other.transferNumber = row.transferNumber) then
    .error (.db "UNIQUE constraint failed: stock_transfers.transfer_number")
  else
    match s.transfers.insert? row with
    | none => .error (.db "UNIQUE constraint failed: stock_transfers.id")
    | some transfers =>
      (insertTransferLines draw 0 input.lines s.lines).map (fun lines =>
        { s with transfers, lines })

def addTransferLine (s : TransferDb κ) : Except CoreError (TransferDb κ) :=
  match s.transfers.find? line.transferId with
  | none => .error (.notFound "stock_transfer" line.transferId)
  | some transfer =>
    if transfer.status ≠ .draft then
      .error (.validation "status" "can only add lines to a draft transfer")
    else (insertTransferLine line s.lines).map (fun lines => { s with lines })

def removeTransferLine (lineId : String) (s : TransferDb κ) : Except CoreError (TransferDb κ) :=
  match s.lines.find? lineId with
  | none => .error (.notFound "stock_transfer_line" lineId)
  | some line =>
    match s.transfers.find? line.transferId with
    | none => .error (.db "Query returned no rows")
    | some transfer =>
      if transfer.status ≠ .draft then
        .error (.validation "status" "can only remove lines from a draft transfer")
      else .ok { s with lines := s.lines.retain (fun row => row.id ≠ lineId) }

variable (s : TransferDb κ) (id : String)

def TransferDb.linesOf : List StockTransferLine :=
  s.lines.rows.filter (fun line => line.transferId = id)

def setSent (now : String) (t : TransferRow) : TransferRow :=
  { t with status := .inTransit, sentAt := some now, updatedAt := now }

def sendTransfer (s : TransferDb κ) : Except CoreError (TransferDb κ) :=
  match s.transfers.find? id with
  | none => .error (.notFound "stock_transfer" id)
  | some transfer =>
    if transfer.status = .draft ∨ transfer.status = .pending then
      (s.domain.sendLines draw.now transfer.sourceLocationId
        ((s.linesOf id).insertionSort (fun a b => a.id ≤ b.id))).map (fun d =>
          { s with
            transfers := s.transfers.update id (setSent draw.now) (fun _ => rfl)
            domain := d })
    else
      .error (.validation "status"
        s!"cannot send transfer in status '{transfer.status.asStr}'; expected 'draft' or 'pending'")

def setReceived (n : Int) (lineId : String) (s : TransferDb κ) : TransferDb κ :=
  { s with
    lines := s.lines.update lineId (fun line => { line with receivedQty := n }) (fun _ => rfl) }

def receiveLine (now id destination : String) (arrived : ReceivedLine) (s : TransferDb κ) :
    Except CoreError (TransferDb κ) :=
  match (s.lines.find? arrived.lineId).filter (fun line => line.transferId = id) with
  | none => .error (.db "Query returned no rows")
  | some line =>
    if arrived.receivedQty < 0 then
      .error (.validation "received_qty" "received quantity must be non-negative")
    else if line.qty < arrived.receivedQty then
      .error (.validation "received_qty" (s!"received_qty ({arrived.receivedQty}) exceeds " ++
        s!"ordered qty ({line.qty}) for line {arrived.lineId}"))
    else if arrived.receivedQty < line.receivedQty then
      .error (.validation "received_qty"
        "received quantity cannot decrease after inventory was credited")
    else if line.receivedQty < arrived.receivedQty then
      (s.domain.shiftStock now line.sku "stock_transfer_in" destination
        (arrived.receivedQty - line.receivedQty)).map (fun d =>
          { setReceived arrived.receivedQty arrived.lineId s with domain := d })
    else .ok (setReceived arrived.receivedQty arrived.lineId s)

def receiveLines (now id destination : String) :
    List ReceivedLine → TransferDb κ → Except CoreError (TransferDb κ)
  | [], s => .ok s
  | arrived :: rest, s =>
    (receiveLine now id destination arrived s).bind (receiveLines now id destination rest)

def receiptStatus (lines : List StockTransferLine) : TransferStatus :=
  if lines.all (fun line => line.qty ≤ line.receivedQty) then .received
  else if lines.any (fun line => 0 < line.receivedQty) then .receivedPartial
  else .inTransit

def setReceipt (now receivedBy : String) (status : TransferStatus) (t : TransferRow) :
    TransferRow :=
  { t with status := status, receivedBy := some receivedBy, receivedAt := some now, updatedAt := now }

def receiveTransfer (id receivedBy : String) (arrived : List ReceivedLine)
    (s : TransferDb κ) : Except CoreError (TransferDb κ) :=
  match s.transfers.find? id with
  | none => .error (.notFound "stock_transfer" id)
  | some transfer =>
    if transfer.status = .inTransit ∨ transfer.status = .receivedPartial then
      (receiveLines draw.now id transfer.destinationLocationId arrived s).map (fun s =>
        { s with
          transfers := s.transfers.update id
            (setReceipt draw.now receivedBy (receiptStatus (s.linesOf id))) (fun _ => rfl) })
    else
      .error (.validation "status" (s!"cannot receive transfer in status " ++
        s!"'{transfer.status.asStr}'; expected 'in_transit' or 'received_partial'"))

def setCancelled (now : String) (t : TransferRow) : TransferRow :=
  { t with status := .cancelled, updatedAt := now }

def cancelTransfer (s : TransferDb κ) : Except CoreError (TransferDb κ) :=
  match s.transfers.find? id with
  | none => .error (.notFound "stock_transfer" id)
  | some transfer =>
    if transfer.status = .received ∨ transfer.status = .receivedPartial ∨
        transfer.status = .cancelled then
      .error (.validation "status" s!"cannot cancel transfer in status '{transfer.status.asStr}'")
    else
      (if transfer.status = .inTransit then
        s.domain.returnLines draw.now transfer.sourceLocationId (s.linesOf id)
      else .ok s.domain).map (fun d =>
        { s with
          transfers := s.transfers.update id (setCancelled draw.now) (fun _ => rfl)
          domain := d })

inductive TransferCall where
  | createTransfer (input : CreateTransfer)
  | addTransferLine (transferId sku productName : String) (qty : Int)
  | removeTransferLine (lineId : String)
  | sendTransfer (id : String)
  | receiveTransfer (id receivedBy : String) (arrived : List ReceivedLine)
  | cancelTransfer (id : String)

inductive TransferAnswer where
  | transfer (transfer : StockTransfer)
  | line (line : StockTransferLine)
  | done

def addedLine (transferId sku productName : String) (qty : Int) : StockTransferLine :=
  ⟨draw.lineId 0, transferId, sku, productName, qty, 0⟩

def TransferCall.write :
    TransferCall → Except CoreError (TransferDb κ)
  | .createTransfer input => OzPos.createTransfer draw input s
  | .addTransferLine transferId sku productName qty =>
    OzPos.addTransferLine (addedLine draw transferId sku productName qty) s
  | .removeTransferLine lineId => OzPos.removeTransferLine lineId s
  | .sendTransfer id => OzPos.sendTransfer draw id s
  | .receiveTransfer id receivedBy arrived => OzPos.receiveTransfer draw id receivedBy arrived s
  | .cancelTransfer id => OzPos.cancelTransfer draw id s

/-- `get_transfer`, as the last three read their transfer back. -/
def getTransfer (s : TransferDb κ) : Except CoreError TransferAnswer :=
  match s.transfers.find? id with
  | none => .error (.notFound "stock_transfer" id)
  | some row => .ok (.transfer ⟨row, some row.sourceLocationId, some row.destinationLocationId⟩)

def TransferCall.answer :
    TransferCall → Except CoreError TransferAnswer
  | .createTransfer input =>
    .ok (.transfer ⟨newTransfer draw input, input.sourceLocation, input.destinationLocation⟩)
  | .addTransferLine transferId sku productName qty =>
    .ok (.line (addedLine draw transferId sku productName qty))
  | .removeTransferLine _ => .ok .done
  | .sendTransfer id => getTransfer id s
  | .receiveTransfer id _ _ => getTransfer id s
  | .cancelTransfer id => getTransfer id s

def transferMachine (κ : Type) :
    Machine (TransferDb κ) (TransferCall × TransferDraw) (Except CoreError TransferAnswer) where
  step s e :=
    match e.2.failure with
    | some message => (s, .error (.db message))
    | none =>
      match e.1.write e.2 s with
      | .error error => (s, .error error)
      | .ok next => (next, e.1.answer e.2 next)

end

end OzPos
