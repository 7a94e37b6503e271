import QuoteService.Bootstrap.Serve
import QuoteService.Main
import QuoteService.Proofs.Bootstrap.Serve
import QuoteService.Proofs.Client.Promises
import QuoteService.Proofs.Client.Sessions
import QuoteService.Proofs.CommandLine.TokenTool
import QuoteService.Proofs.Logging.Setups
import QuoteService.Proofs.Pem.Blocks
import QuoteService.Proofs.Pem.Layouts
import QuoteService.Proofs.Service.Envelopes
import QuoteService.Proofs.Service.Gate
import QuoteService.Proofs.Service.History
import QuoteService.Proofs.Service.Posting
import QuoteService.Proofs.Service.Wrapping
import QuoteService.Proofs.Store.Interleaving
import QuoteService.Proofs.Tls.Loading
import QuoteService.Proofs.Tls.Trust
import QuoteService.Proofs.Token.Forgery
import QuoteService.Proofs.Token.Minting
import QuoteService.Proofs.Token.Scope
import QuoteService.Proofs.Token.SigningKey
import QuoteService.Proofs.Token.Verdicts
