import BookCatalog.Catalog.Script
import BookCatalog.Main
import BookCatalog.Proofs.Book.Covers
import BookCatalog.Proofs.Catalog.Bodies
import BookCatalog.Proofs.Catalog.Chains
import BookCatalog.Proofs.Catalog.Collection
import BookCatalog.Proofs.Catalog.Sharing
import BookCatalog.Proofs.Catalog.Terms
import BookCatalog.Proofs.Catalog.Usable
import BookCatalog.Proofs.Command.Effects
import BookCatalog.Proofs.Command.Stopping
import BookCatalog.Proofs.Search.Coarser
import BookCatalog.Proofs.Search.Lossless
import BookCatalog.Proofs.Settings.Errands
import BookCatalog.Proofs.Settings.Place
import BookCatalog.Proofs.View.Credits
import BookCatalog.Proofs.View.Entries
import BookCatalog.Proofs.View.Outcomes
import BookCatalog.Proofs.View.Reasons
