import Billing.Canvas.Step
import Billing.Main
import Billing.Proofs.Pagination
import Billing.Proofs.Placement
import Billing.Proofs.Rows
import Billing.Proofs.Sums
import Billing.Service.Server
import Billing.Service.Target
import Billing.Proofs.Entries
import Billing.Proofs.Remarks
import Billing.Proofs.Division
import Billing.Proofs.Number.Rounding
import Billing.Proofs.Number.Nearest
import Billing.Proofs.Number.Shortest
import Billing.Proofs.Trimming
import Billing.Proofs.EnteredLines
import Billing.Proofs.Amounts
import Billing.Proofs.Number.Printing
import Billing.Proofs.LineOrder
import Billing.Proofs.RoundedAmounts
import Billing.Proofs.Preparation
import Billing.Proofs.Answers
import Billing.Proofs.Drawing.Passes
import Billing.Proofs.PageBounds
import Billing.Proofs.HeaderPlacement
import Billing.Proofs.PrintedRows
import Billing.Proofs.SameTexts
import Billing.Proofs.Number.Order
import Billing.Proofs.AddedLines
import Billing.Proofs.Paintings
import Billing.Proofs.Json.Ends
import Billing.Proofs.Json.Texts
import Billing.Proofs.SavedSettings
import Billing.Proofs.PaintedTexts
import Billing.Proofs.Previews
import Billing.Proofs.Agreement
import Billing.Proofs.Number.Written
import Billing.Proofs.SheetReading
import Billing.Proofs.WrittenLines
import Billing.Proofs.TableBreaks
import Billing.Proofs.CarriedRemarks
import Billing.Proofs.GreedyLines
import Billing.Proofs.InputWidths
import Billing.Proofs.LoadedSettings
import Billing.Proofs.DrawnLines
import Billing.Proofs.ItemFields
import Billing.Proofs.Number.ReadBack
import Billing.Proofs.PlainFigures
import Billing.Proofs.Number.Percentage
import Billing.Proofs.DisplayedFigures
