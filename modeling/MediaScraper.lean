import MediaScraper.Main
import MediaScraper.Manifest
import MediaScraper.Proofs.Call.Hint
import MediaScraper.Proofs.Charset.Decoding
import MediaScraper.Proofs.CommandLine.Differing
import MediaScraper.Proofs.Interpreter.AbsentRegister
import MediaScraper.Proofs.Interpreter.DepthLimit
import MediaScraper.Proofs.Interpreter.Flattening
import MediaScraper.Proofs.Interpreter.Import
import MediaScraper.Proofs.Interpreter.Independence
import MediaScraper.Proofs.Interpreter.Payload
import MediaScraper.Proofs.Interpreter.Repetition
import MediaScraper.Proofs.Library.Charsets
import MediaScraper.Proofs.Library.Frames
import MediaScraper.Proofs.Library.Naming
import MediaScraper.Proofs.Library.Repairing
import MediaScraper.Proofs.Manifest.Reading
import MediaScraper.Proofs.Pattern.Literal
import MediaScraper.Proofs.Repair.KnownAttributes
import MediaScraper.Proofs.Repair.Region
import MediaScraper.Proofs.SearchResult.MixedContent
import MediaScraper.Proofs.Session.Search
import MediaScraper.Proofs.Session.SearchUrl
import MediaScraper.Proofs.Template.Segmentation
import MediaScraper.Proofs.Url.Reading
