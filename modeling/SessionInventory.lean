import SessionInventory.Main
import SessionInventory.Proofs.Inventory.Lookup
import SessionInventory.Proofs.Listing.Labels
import SessionInventory.Proofs.Listing.Entries
import SessionInventory.Proofs.Listing.Courses
import SessionInventory.Proofs.Filter.Places
import SessionInventory.Proofs.Run.Answers
import SessionInventory.Proofs.Run.Respelled
import SessionInventory.Proofs.Inventory.Lossless
import SessionInventory.Proofs.Session.Parts
import SessionInventory.Proofs.Listing.Locality
import SessionInventory.Proofs.Listing.Target
import SessionInventory.Proofs.Listing.Damage
import SessionInventory.Proofs.Listing.Integers
import SessionInventory.Proofs.FetchError
import SessionInventory.Proofs.Settings
import SessionInventory.Proofs.Inventory.Order
